import Reckoner.Proofs.Source.Steps

namespace Reckoner

/-- What a token says, its line apart. -/
def Token.content (t : Token) : Kind × String × Option Payload := (t.kind, t.lexeme, t.payload)

namespace Segment

/-- What the token of a segment says: for a string the text between the quotes, else the segment. -/
def lexeme : Segment → List Char
  | string inner => inner
  | s => s.text

def kind? : Segment → Option Kind
  | mark kind _ => some kind
  | word cs => some (Kind.ofWord (String.ofList cs))
  | number _ _ => some .number
  | string _ => some .string
  | _ => none

def payload? : Segment → Option Payload
  | number whole fraction => some (.number (Number.Decimal.ofDigits whole fraction).toFloat)
  | string inner => some (.text (String.ofList inner))
  | _ => none

def message? : Segment → Option String
  | unclosed _ => some "Unterminated string."
  | dangling _ => some "Number cannot end with '.'."
  | stray _ => some "Unexpected character."
  | _ => none

def content? (s : Segment) : Option (Kind × String × Option Payload) :=
  s.kind?.map fun kind => (kind, String.ofList s.lexeme, s.payload?)

theorem content_token? (s : Segment) (line : Int) :
    (s.token? line).map Token.content = s.content? := by
  cases s <;> rfl

theorem message_fault? (s : Segment) (line : Int) :
    (s.fault? line).map (·.message) = s.message? := by
  cases s <;> rfl

theorem location_of_fault? {s : Segment} {line : Int} {d : Diagnostic} (h : s.fault? line = some d) :
    d.location = "" := by
  cases s with
  | unclosed | dangling | stray =>
      obtain rfl := Option.some.inj h
      rfl
  | _ => simp [fault?] at h

theorem ofWord_not_mem (w : String) : Kind.ofWord w ∉ [Kind.number, .string, .endOfInput] := by
  unfold Kind.ofWord
  cases h : Kind.words.lookup w with
  | none => decide
  | some kind =>
      have words : ∀ p ∈ Kind.words, p.2 ∉ [Kind.number, .string, .endOfInput] := by decide
      exact words _ (mem_of_lookup h)

theorem Fits.mark_not_mem {kind : Kind} {cs after : List Char} (h : (mark kind cs).Fits after) :
    kind ∉ [Kind.number, .string, .endOfInput] := by
  have singles : ∀ m ∈ singleMarks, m.2 ∉ [Kind.number, .string, .endOfInput] := by decide
  have pairs : ∀ m ∈ pairedMarks, m.2.1 ∉ [Kind.number, .string, .endOfInput] ∧
      m.2.2 ∉ [Kind.number, .string, .endOfInput] := by decide
  cases h with
  | single hm => exact singles _ hm
  | double hm => exact (pairs _ hm).1
  | unpaired hm _ => exact (pairs _ hm).2
  | slash => decide

theorem Fits.said_ne_endOfInput {s : Segment} {after : List Char} (h : s.Fits after)
    {content : Kind × String × Option Payload} (said : s.content? = some content) :
    content.1 ≠ .endOfInput := by
  obtain ⟨kind, hk, rfl⟩ := Option.map_eq_some_iff.1 said
  rintro rfl
  cases s with
  | mark kind cs => exact h.mark_not_mem (by simp [Option.some.inj hk])
  | word cs => exact ofWord_not_mem (String.ofList cs) (by simp [Option.some.inj hk])
  | _ => simp [kind?] at hk

end Segment

namespace Scan

open Segment

theorem tokens_ofSegments (line : Int) (segs : List Segment) :
    ∃ spoken, (ofSegments line segs).tokens =
        spoken ++ [Token.endOfInput (ofSegments line segs).lastLine] ∧
      spoken.map Token.content = segs.filterMap Segment.content? := by
  induction segs generalizing line with
  | nil => exact ⟨[], rfl, rfl⟩
  | cons s segs ih =>
      obtain ⟨spoken, tokens, content⟩ := ih (line + s.breaks)
      refine ⟨(s.token? line).toList ++ spoken, by simp [ofSegments, tokens], ?_⟩
      rw [List.map_append, content, List.filterMap_cons, ← content_token? s line]
      cases s.token? line <;> rfl

theorem faults_ofSegments (line : Int) (segs : List Segment) :
    (ofSegments line segs).faults.map (·.message) = segs.filterMap Segment.message? := by
  induction segs generalizing line with
  | nil => rfl
  | cons s segs ih =>
      rw [List.filterMap_cons, ← message_fault? s line, ofSegments, List.map_append, ih]
      cases s.fault? line <;> rfl

theorem location_of_mem_faults {line : Int} {segs : List Segment} :
    ∀ d ∈ (ofSegments line segs).faults, d.location = "" := by
  induction segs generalizing line with
  | nil => exact List.forall_mem_nil _
  | cons s segs ih =>
      intro d hd
      rcases List.mem_append.1 hd with hd | hd
      · exact location_of_fault? (Option.mem_toList.1 hd)
      · exact ih d hd

/-- A source falls apart in exactly one way into segments by the rules, and these are the steps of
the scan. The tokens are what the segments say, in order, and one mark of the end; the faults are
those of the faulty segments, in order. -/
theorem ofString_segmented (source : String) :
    ∃ segs spoken,
      (∀ other, Segmented source.toList other ↔ other = segs) ∧
      State.Steps source.toList.toArray (State.start source.toList) segs
        ((State.start source.toList).finish source.toList.toArray) ∧
      (ofString source).tokens = spoken ++ [Token.endOfInput (ofString source).lastLine] ∧
      spoken.map Token.content = segs.filterMap Segment.content? ∧
      (∀ t ∈ spoken, t.kind ≠ .endOfInput) ∧
      (ofString source).faults.map (·.message) = segs.filterMap Segment.message? := by
  have steps := State.finish_start_steps source.toList
  obtain ⟨spoken, tokens, content⟩ := tokens_ofSegments 1 (segments source.toList)
  refine ⟨segments source.toList, spoken, fun other => segmented_iff, steps, ?_, content, ?_, ?_⟩
  · rw [ofString_eq, tokens]
  · intro t ht
    have said := List.mem_map_of_mem ht (f := Token.content)
    rw [content, List.mem_filterMap] at said
    obtain ⟨s, hs, said⟩ := said
    obtain ⟨after, fits⟩ := (segmented_segments source.toList).fits s hs
    exact fits.said_ne_endOfInput said
  · rw [ofString_eq, faults_ofSegments]

end Scan

end Reckoner

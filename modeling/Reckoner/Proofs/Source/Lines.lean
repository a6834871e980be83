import Reckoner.Proofs.Source.Joining

namespace Reckoner

structure Place where
  before : List Char
  segment : Segment

namespace Place

def line (p : Place) : Int := 1 + p.before.count '\n'

def token? (p : Place) : Option Token :=
  p.segment.content?.map fun said => ⟨said.1, said.2.1, p.line, said.2.2⟩

/-- The segment's fault, on the line on which the segment starts or on the last one. -/
def fault? (lastLine : Int) (p : Place) : Option Diagnostic :=
  p.segment.message?.map fun message =>
    .ofLine (if message = "Unterminated string." then lastLine else p.line) message

def toldLine? (lastLine : Int) (p : Place) : Option Int :=
  (p.token?.map Token.line).or ((p.fault? lastLine).map Diagnostic.line)

end Place

def placesFrom (before : List Char) : List Segment → List Place
  | [] => []
  | s :: rest => ⟨before, s⟩ :: placesFrom (before ++ s.text) rest

theorem map_segment_placesFrom (before : List Char) (segs : List Segment) :
    (placesFrom before segs).map Place.segment = segs := by
  induction segs generalizing before with
  | nil => rfl
  | cons s segs ih => rw [placesFrom, List.map_cons, ih]

theorem prefix_of_mem_placesFrom {before : List Char} {segs : List Segment} :
    ∀ p ∈ placesFrom before segs,
      before <+: p.before ∧ p.before ++ p.segment.text <+: before ++ segs.flatMap Segment.text := by
  induction segs generalizing before with
  | nil => exact List.forall_mem_nil _
  | cons s segs ih =>
      intro p hp
      rcases List.mem_cons.1 hp with rfl | hp
      · refine ⟨List.prefix_refl _, ?_⟩
        rw [List.flatMap_cons, ← List.append_assoc]
        exact List.prefix_append _ _
      · obtain ⟨from', upTo⟩ := ih p hp
        rw [List.append_assoc] at upTo
        exact ⟨(List.prefix_append before s.text).trans from', upTo⟩

theorem Segmented.flatMap_text {cs : List Char} {segs : List Segment} (h : Segmented cs segs) :
    segs.flatMap Segment.text = cs := by
  rw [segmented_iff.1 h, flatMap_text_segments]

theorem Place.token?_eq (before : List Char) (s : Segment) :
    Place.token? ⟨before, s⟩ = s.token? (Place.line ⟨before, s⟩) := by
  cases s <;> rfl

/-- A string without an end takes up the rest of the source, so that the line on which it is told of
is the last one. -/
theorem Place.fault?_eq {s : Segment} {after : List Char} (h : s.Fits after) (before : List Char) :
    Place.fault? (1 + (before ++ (s.text ++ after)).count '\n') ⟨before, s⟩ =
      s.fault? (Place.line ⟨before, s⟩) := by
  cases s with
  | unclosed inner =>
      cases h
      have quote : (Text.Quoted.doubleQuote == '\n') = false := by decide
      simp [Place.fault?, Segment.message?, Segment.fault?, Place.line, Segment.text,
        List.count_cons, quote, Int.add_assoc]
  | dangling | stray => simp [Place.fault?, Segment.message?, Segment.fault?]
  | _ => rfl

namespace Scan

theorem ofSegments_places {cs : List Char} {segs : List Segment} (h : Segmented cs segs)
    (before : List Char) :
    let lastLine : Int := 1 + (before ++ cs).count '\n'
    ofSegments (1 + before.count '\n') segs =
      ⟨(placesFrom before segs).filterMap Place.token? ++ [Token.endOfInput lastLine],
        (placesFrom before segs).filterMap (Place.fault? lastLine), lastLine⟩ := by
  induction h generalizing before with
  | nil => simp [ofSegments, placesFrom]
  | @cons s after segs fits _ ih =>
      have line : (1 + before.count '\n' : Int) + s.breaks = 1 + (before ++ s.text).count '\n' := by
        simp only [Segment.breaks, List.count_append]
        omega
      have here : Place.line ⟨before, s⟩ = 1 + before.count '\n' := rfl
      simp only [ofSegments, line, ih, placesFrom, List.append_assoc, List.filterMap_cons,
        Place.token?_eq, Place.fault?_eq fits, here]
      cases s.token? (1 + before.count '\n') <;> cases s.fault? (1 + before.count '\n') <;> rfl

end Scan

theorem Segmented.pairwise_places {cs : List Char} {segs : List Segment} (h : Segmented cs segs)
    (before : List Char) :
    (placesFrom before segs).Pairwise fun p q => ¬p.segment.IsUnclosed ∧ p.line ≤ q.line := by
  induction h generalizing before with
  | nil => exact List.Pairwise.nil
  | @cons s after segs fits segmented ih =>
      refine List.Pairwise.cons (fun q hq => ⟨?_, ?_⟩) (ih _)
      · rintro ⟨inner, rfl⟩
        cases fits
        rw [segmented_iff.1 segmented, segments] at hq
        exact absurd hq List.not_mem_nil
      · obtain ⟨further, -⟩ := prefix_of_mem_placesFrom q hq
        have more := ((List.prefix_append before s.text).trans further).sublist.count_le '\n'
        simp only [Place.line]
        omega

theorem Segment.content?_of_message? {s : Segment} {message : String}
    (h : s.message? = some message) : s.content? = none := by
  cases s with
  | unclosed | dangling | stray => rfl
  | _ => simp [message?] at h

theorem Segment.isUnclosed_of_message? {s : Segment}
    (h : s.message? = some "Unterminated string.") : s.IsUnclosed := by
  cases s with
  | unclosed inner => exact ⟨inner, rfl⟩
  | _ => simp [message?] at h

section

variable {lastLine : Int} {p : Place}

theorem Place.line_of_token? {t : Token} (h : p.token? = some t) : t.line = p.line := by
  obtain ⟨said, -, rfl⟩ := Option.map_eq_some_iff.1 h
  rfl

theorem Place.line_of_fault? {d : Diagnostic} (h : p.fault? lastLine = some d) :
    d.line = p.line ∨ p.segment.IsUnclosed ∧ d.line = lastLine := by
  obtain ⟨message, said, rfl⟩ := Option.map_eq_some_iff.1 h
  by_cases unclosed : message = "Unterminated string."
  · rw [unclosed] at said
    exact Or.inr ⟨Segment.isUnclosed_of_message? said, if_pos unclosed⟩
  · exact Or.inl (if_neg unclosed)

theorem Place.toldLine?_of_token? {t : Token} (h : p.token? = some t) :
    p.toldLine? lastLine = some t.line := by
  rw [toldLine?, h]
  rfl

theorem Place.toldLine?_of_fault? {d : Diagnostic} (h : p.fault? lastLine = some d) :
    p.toldLine? lastLine = some d.line := by
  obtain ⟨message, said, -⟩ := Option.map_eq_some_iff.1 h
  rw [toldLine?, h, token?, Segment.content?_of_message? said]
  rfl

theorem Place.of_toldLine? {l : Int} (h : p.toldLine? lastLine = some l) :
    l = p.line ∨ p.segment.IsUnclosed ∧ l = lastLine := by
  rcases Option.or_eq_some_iff.1 h with told | ⟨-, told⟩
  · obtain ⟨t, ht, rfl⟩ := Option.map_eq_some_iff.1 told
    exact Or.inl (line_of_token? ht)
  · obtain ⟨d, hd, rfl⟩ := Option.map_eq_some_iff.1 told
    exact line_of_fault? hd

theorem Place.line_le_of_mem {cs : List Char} {segs : List Segment} (h : Segmented cs segs)
    (hp : p ∈ placesFrom [] segs) : p.line ≤ 1 + cs.count '\n' := by
  have upTo := (prefix_of_mem_placesFrom p hp).2
  rw [List.nil_append, h.flatMap_text] at upTo
  have fewer := ((List.prefix_append p.before p.segment.text).trans upTo).count_le '\n'
  simp only [Place.line]
  omega

end

section

variable {cs : List Char} {segs : List Segment} {α : Type} {f : Place → Option α} {g : α → Int}

theorem le_lastLine (h : Segmented cs segs)
    (told : ∀ p a, f p = some a → p.toldLine? (1 + cs.count '\n') = some (g a)) :
    ∀ a ∈ (placesFrom [] segs).filterMap f, g a ≤ 1 + cs.count '\n' := by
  intro a ha
  obtain ⟨p, hp, said⟩ := List.mem_filterMap.1 ha
  rcases Place.of_toldLine? (told p a said) with same | ⟨-, same⟩
  · rw [same]
    exact Place.line_le_of_mem h hp
  · exact Int.le_of_eq same

theorem pairwise_told (h : Segmented cs segs)
    (told : ∀ p a, f p = some a → p.toldLine? (1 + cs.count '\n') = some (g a)) :
    ((placesFrom [] segs).filterMap f).Pairwise (g · ≤ g ·) := by
  refine List.pairwise_filterMap.2 ((h.pairwise_places []).imp_of_mem ?_)
  rintro p q - hq ⟨closed, ordered⟩ a ha b hb
  have first := (Place.of_toldLine? (told p a ha)).resolve_right fun other => closed other.1
  rw [first]
  rcases Place.of_toldLine? (told q b hb) with same | ⟨-, same⟩
  · rw [same]
    exact ordered
  · rw [same]
    exact Int.le_trans ordered (Place.line_le_of_mem h hq)

end

namespace Scan

/-- The source falls apart into segments, and each of them has its place: it stands where the text
before it ends. The tokens are those of the places, with the line on which the segment starts, and a
mark of the end with the last line; the faults are those of the places, with the line on which the
segment starts or, where a string has no end, with the last line. The lines of what is told never
decrease, in the source as a whole, among the tokens and among the faults. -/
theorem ofString_lines (source : String) :
    ∃ segs, (∀ other, Segmented source.toList other ↔ other = segs) ∧
      let places := placesFrom [] segs
      let lastLine : Int := 1 + source.toList.count '\n'
      places.map Place.segment = segs ∧
      (∀ p ∈ places, p.before ++ p.segment.text <+: source.toList) ∧
      (ofString source).tokens = places.filterMap Place.token? ++ [Token.endOfInput lastLine] ∧
      (ofString source).faults = places.filterMap (Place.fault? lastLine) ∧
      (places.filterMap (Place.toldLine? lastLine) ++ [lastLine]).Pairwise (· ≤ ·) ∧
      (ofString source).tokens.Pairwise (·.line ≤ ·.line) ∧
      (ofString source).faults.Pairwise (·.line ≤ ·.line) := by
  have segmented := segmented_segments source.toList
  have tokenTold (p : Place) (t : Token) (h : p.token? = some t) :
      p.toldLine? (1 + source.toList.count '\n') = some t.line := Place.toldLine?_of_token? h
  have scanned : ofString source = _ :=
    (ofString_eq source).trans (ofSegments_places segmented [])
  refine ⟨segments source.toList, fun other => segmented_iff, map_segment_placesFrom _ _,
    fun p hp => ?_, ?_, ?_, ?_, ?_, ?_⟩
  · have upTo := (prefix_of_mem_placesFrom p hp).2
    rwa [segmented.flatMap_text] at upTo
  · rw [scanned]
    rfl
  · rw [scanned]
    rfl
  · refine List.pairwise_append.2 ⟨pairwise_told segmented fun _ _ h => h,
      List.pairwise_singleton _ _, fun l hl m hm => ?_⟩
    rw [List.mem_singleton.1 hm]
    exact le_lastLine (g := id) segmented (fun _ _ h => h) l hl
  · rw [scanned]
    refine List.pairwise_append.2 ⟨pairwise_told segmented tokenTold,
      List.pairwise_singleton _ _, fun t ht m hm => ?_⟩
    rw [List.mem_singleton.1 hm]
    exact le_lastLine segmented tokenTold t ht
  · rw [scanned]
    exact pairwise_told segmented fun _ _ => Place.toldLine?_of_fault?

end Scan

end Reckoner

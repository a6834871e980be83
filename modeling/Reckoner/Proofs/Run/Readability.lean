import Reckoner.Proofs.Expr.Relabelling
import Reckoner.Proofs.Number.Texts
import Reckoner.Proofs.Run.Blame
import Reckoner.Proofs.Run.Composition

namespace Reckoner

def unaryMarks : List (String × Kind) := [("-", .minus), ("!", .bang)]

def literalWords : List (String × Kind) :=
  [("true", .trueWord), ("false", .falseWord), ("nil", .nilWord)]

def Token.bare (t : Token) : Token := ⟨t.kind, t.lexeme, 1, none⟩

namespace Expr

/-- The operators are written as in sources, numbers are not NaN, strings are texts without a quote,
and the other literals carry nothing. -/
def Legible : Expr → Prop
  | literal kind payload =>
      (kind = .number → ∀ x, payload = some (.number x) → x.isNaN = false) ∧
        (kind = .string → ∃ s, payload = some (.text s) ∧ '"' ∉ s.toList) ∧
        (kind ∈ literalWords.map (·.2) → payload = none)
  | grouping inner => inner.Legible
  | unary operator right => (operator.lexeme, operator.kind) ∈ unaryMarks ∧ right.Legible
  | binary left operator right =>
      (operator.lexeme, operator.kind) ∈ binaryMarks ∧ left.Legible ∧ right.Legible
  | missing => True

/-- The literal is written with these characters. -/
inductive Atom : Kind → Option Payload → List Char → Prop where
  | number {x : Float} : x.isNaN = false →
      Atom .number (some (.number x)) (Number.plain x).toList
  | string {s : String} : '"' ∉ s.toList →
      Atom .string (some (.text s)) ('"' :: (s.toList ++ ['"']))
  | word {word : String} {kind : Kind} : (word, kind) ∈ literalWords → Atom kind none word.toList

def headed (word : String) (rest : List Char) : List Char :=
  '(' :: (word.toList ++ ' ' :: (rest ++ [')']))

inductive Writes : Expr → List Char → Prop where
  | literal {kind : Kind} {payload : Option Payload} {cs : List Char} :
      Atom kind payload cs → Writes (literal kind payload) cs
  | grouping {inner : Expr} {cs : List Char} :
      Writes inner cs → Writes (grouping inner) (headed "group" cs)
  | unary {operator : Token} {right : Expr} {cs : List Char} :
      (operator.lexeme, operator.kind) ∈ unaryMarks → Writes right cs →
      Writes (unary operator right) (headed operator.lexeme cs)
  | binary {left right : Expr} {operator : Token} {cs ds : List Char} :
      (operator.lexeme, operator.kind) ∈ binaryMarks → Writes left cs → Writes right ds →
      Writes (binary left operator right) (headed operator.lexeme (cs ++ ' ' :: ds))

theorem atom_of_literalText {kind : Kind} {payload : Option Payload} {s : String}
    (legible : (literal kind payload).Legible) (h : literalText kind payload = .ok s) :
    Atom kind payload s.toList := by
  obtain ⟨number, string, word⟩ := legible
  unfold literalText at h
  split at h
  case h_1 x =>
    obtain rfl := Except.ok.inj h
    exact .number (number rfl x rfl)
  case h_3 =>
    obtain ⟨text, rfl, quote⟩ := string rfl
    obtain rfl := Except.ok.inj h
    have atom := Atom.string quote
    simpa [innerText] using atom
  case h_4 | h_5 | h_6 =>
    obtain rfl := Except.ok.inj h
    obtain rfl := word (by decide)
    exact .word (by decide)
  all_goals cases h

theorem writes_of_renderWithin {depth : Nat} {e : Expr} {s : String} (legible : e.Legible)
    (h : renderWithin depth e = .ok s) : Writes e s.toList := by
  induction depth generalizing e s with
  | zero => cases h
  | succ depth ih =>
      cases e with
      | literal kind payload => exact .literal (atom_of_literalText legible h)
      | grouping inner =>
          have legible : inner.Legible := legible
          simp only [renderWithin] at h
          split at h
          next cs hcs =>
            obtain rfl := Except.ok.inj h
            have writes := Writes.grouping (ih legible hcs)
            simpa [headed] using writes
          next => cases h
      | unary operator right =>
          simp only [renderWithin] at h
          split at h
          next cs hcs =>
            obtain rfl := Except.ok.inj h
            have writes := Writes.unary legible.1 (ih legible.2 hcs)
            simpa [headed] using writes
          next => cases h
      | binary left operator right =>
          simp only [renderWithin] at h
          split at h
          next => cases h
          next cs hcs =>
            split at h
            next => cases h
            next ds hds =>
              obtain rfl := Except.ok.inj h
              have writes := Writes.binary legible.1 (ih legible.2.1 hcs) (ih legible.2.2 hds)
              simpa [headed] using writes
      | missing => cases h

def Closes (rest : List Char) : Prop := ∀ c ∈ rest.head?, c = ' ' ∨ c = ')'

theorem closes_blank (rest : List Char) : Closes (' ' :: rest) := by simp [Closes]

theorem closes_closing (rest : List Char) : Closes (')' :: rest) := by simp [Closes]

/-- The characters at which a literal that is not a string ends, or something else begins. -/
def borders : List Char := [' ', ')', '(', '"']

def isInner (c : Char) : Bool := !borders.contains c

def Inner (cs : List Char) : Prop := ∀ c ∈ cs, isInner c

theorem inner_plain {x : Float} (h : x.isNaN = false) : Inner (Number.plain x).toList := by
  have apart : borders.all (!Number.isNumberChar ·) = true := by decide
  intro c hc
  have number := Number.isNumberChar_plain h c hc
  rw [isInner, Bool.not_eq_true', ← Bool.not_eq_true, List.contains_iff_mem]
  intro border
  have other := List.all_eq_true.1 apart c border
  rw [number] at other
  exact absurd other (by decide)

theorem inner_word {word : String} {kind : Kind} (h : (word, kind) ∈ literalWords) :
    Inner word.toList := by
  have words : literalWords.all (·.1.toList.all isInner) = true := by decide
  exact List.all_eq_true.1 (List.all_eq_true.1 words _ h)

theorem Inner.append_inj {cs ds us vs : List Char} (hc : Inner cs) (hd : Inner ds)
    (hu : Closes us) (hv : Closes vs) (same : cs ++ us = ds ++ vs) : cs = ds ∧ us = vs := by
  have stops {us : List Char} (hu : Closes us) : ∀ c ∈ us.head?, ¬ isInner c := by
    intro c hc
    rcases hu c hc with rfl | rfl <;> decide
  exact append_inj_of_stop isInner hc hd (stops hu) (stops hv) same

theorem Inner.head_ne {cs us rest : List Char} {c : Char} (h : Inner cs) (hu : Closes us)
    (same : cs ++ us = c :: rest) : c ≠ '"' ∧ c ≠ '(' := by
  cases cs with
  | nil =>
      have front : c ∈ us.head? := by
        rw [List.nil_append] at same
        rw [same]
        rfl
      rcases hu c front with rfl | rfl <;> decide
  | cons d ds =>
      obtain rfl := (List.cons.inj same).1
      have inner := h d List.mem_cons_self
      constructor <;> rintro rfl <;> exact absurd inner (by decide)

theorem plain_ne_word {x : Float} (hx : x.isNaN = false) {word : String} {kind : Kind}
    (hw : (word, kind) ∈ literalWords) : (Number.plain x).toList ≠ word.toList := by
  have mute : literalWords.all (!·.1.toList.all Number.isNumberChar) = true := by decide
  intro eq
  have other := List.all_eq_true.1 mute _ hw
  rw [← eq, List.all_eq_true.2 (Number.isNumberChar_plain hx)] at other
  exact absurd other (by decide)

theorem Atom.unique {kind kind' : Kind} {payload payload' : Option Payload}
    {cs ds us vs : List Char} (h : Atom kind payload cs) (h' : Atom kind' payload' ds)
    (hu : Closes us) (hv : Closes vs) (same : cs ++ us = ds ++ vs) :
    kind = kind' ∧ payload = payload' ∧ us = vs := by
  cases h with
  | @number x hx =>
      cases h' with
      | @number y hy =>
          obtain ⟨text, rest⟩ := (inner_plain hx).append_inj (inner_plain hy) hu hv same
          rw [Number.plain_injective hx hy (String.toList_inj.1 text)]
          exact ⟨rfl, rfl, rest⟩
      | string => exact absurd rfl ((inner_plain hx).head_ne hu same).1
      | word hw =>
          exact absurd ((inner_plain hx).append_inj (inner_word hw) hu hv same).1 (plain_ne_word hx hw)
  | @string s hs =>
      cases h' with
      | number hy => exact absurd rfl ((inner_plain hy).head_ne hv same.symm).1
      | @string t ht =>
          have text : s.toList ++ '"' :: us = t.toList ++ '"' :: vs := by simpa using same
          obtain ⟨inside, rest⟩ := append_cons_inj_of_not_mem hs ht text
          rw [String.toList_inj.1 inside]
          exact ⟨rfl, rfl, rest⟩
      | word hw => exact absurd rfl ((inner_word hw).head_ne hv same.symm).1
  | @word w kind hw =>
      cases h' with
      | number hy =>
          have text := ((inner_word hw).append_inj (inner_plain hy) hu hv same).1
          exact absurd text.symm (plain_ne_word hy hw)
      | string => exact absurd rfl ((inner_word hw).head_ne hu same).1
      | @word w' kind' hw' =>
          obtain ⟨text, rest⟩ := (inner_word hw).append_inj (inner_word hw') hu hv same
          have kinds : ∀ m ∈ literalWords, ∀ n ∈ literalWords, m.1 = n.1 → m.2 = n.2 := by decide
          exact ⟨kinds _ hw _ hw' (String.toList_inj.1 text), rfl, rest⟩

theorem Atom.ne_headed {kind : Kind} {payload : Option Payload} {cs us rest vs : List Char}
    {word : String} (h : Atom kind payload cs) (hu : Closes us) :
    cs ++ us ≠ headed word rest ++ vs := by
  intro same
  cases h with
  | number hx => exact absurd rfl ((inner_plain hx).head_ne hu same).2
  | string => exact absurd (List.cons.inj same).1 (by decide)
  | word hw => exact absurd rfl ((inner_word hw).head_ne hu same).2

theorem headed_inj {word word' : String} (hw : ' ' ∉ word.toList) (hw' : ' ' ∉ word'.toList)
    {cs ds us vs : List Char} (same : headed word cs ++ us = headed word' ds ++ vs) :
    word = word' ∧ cs ++ ')' :: us = ds ++ ')' :: vs := by
  have inside : word.toList ++ ' ' :: (cs ++ ')' :: us) =
      word'.toList ++ ' ' :: (ds ++ ')' :: vs) := by
    simpa [headed] using same
  obtain ⟨front, rest⟩ := append_cons_inj_of_not_mem hw hw' inside
  exact ⟨String.toList_inj.1 front, rest⟩

theorem unaryMarks_words : ∀ m ∈ unaryMarks, ' ' ∉ m.1.toList ∧ m.1 ≠ "group" := by decide +kernel

theorem binaryMarks_words : ∀ m ∈ binaryMarks, ' ' ∉ m.1.toList ∧ m.1 ≠ "group" := by
  decide +kernel

theorem bare_eq {marks : List (String × Kind)} {t u : Token}
    (single : ∀ m ∈ marks, ∀ n ∈ marks, m.1 = n.1 → m.2 = n.2) (ht : (t.lexeme, t.kind) ∈ marks)
    (hu : (u.lexeme, u.kind) ∈ marks) (lexeme : t.lexeme = u.lexeme) : t.bare = u.bare := by
  have kind : t.kind = u.kind := single _ ht _ hu lexeme
  rw [Token.bare, Token.bare, lexeme, kind]

/-- A tree ends where its text does, and the text is that of no other tree. -/
theorem Writes.unique {a b : Expr} {cs ds us vs : List Char} (h : Writes a cs) (h' : Writes b ds)
    (hu : Closes us) (hv : Closes vs) (same : cs ++ us = ds ++ vs) :
    a.relabel Token.bare = b.relabel Token.bare ∧ us = vs := by
  have groupWord : ' ' ∉ "group".toList := by decide
  induction h generalizing b ds us vs with
  | literal atom =>
      cases h' with
      | literal atom' =>
          obtain ⟨rfl, rfl, rest⟩ := atom.unique atom' hu hv same
          exact ⟨rfl, rest⟩
      | grouping | unary | binary => exact absurd same (atom.ne_headed hu)
  | grouping _ ih =>
      cases h' with
      | literal atom => exact absurd same.symm (atom.ne_headed hv)
      | grouping inner =>
          obtain ⟨-, rest⟩ := headed_inj groupWord groupWord same
          obtain ⟨tree, rest⟩ := ih inner (closes_closing _) (closes_closing _) rest
          exact ⟨congrArg Expr.grouping tree, (List.cons.inj rest).2⟩
      | unary mark =>
          obtain ⟨word, other⟩ := unaryMarks_words _ mark
          exact absurd (headed_inj groupWord word same).1.symm other
      | binary mark =>
          obtain ⟨word, other⟩ := binaryMarks_words _ mark
          exact absurd (headed_inj groupWord word same).1.symm other
  | @unary operator right cs mark _ ih =>
      obtain ⟨word, other⟩ := unaryMarks_words _ mark
      cases h' with
      | literal atom => exact absurd same.symm (atom.ne_headed hv)
      | grouping => exact absurd (headed_inj word groupWord same).1 other
      | unary mark' inner =>
          obtain ⟨lexeme, rest⟩ := headed_inj word (unaryMarks_words _ mark').1 same
          obtain ⟨tree, rest⟩ := ih inner (closes_closing _) (closes_closing _) rest
          refine ⟨?_, (List.cons.inj rest).2⟩
          rw [relabel, relabel, tree, bare_eq (by decide) mark mark' lexeme]
      | binary mark' left =>
          -- after the first operand one text closes and the other goes on
          obtain ⟨-, rest⟩ := headed_inj word (binaryMarks_words _ mark').1 same
          rw [List.append_assoc, List.cons_append] at rest
          obtain ⟨-, rest⟩ := ih left (closes_closing _) (closes_blank _) rest
          exact absurd (List.cons.inj rest).1 (by decide)
  | @binary left right operator cs cs' mark _ _ ihl ihr =>
      obtain ⟨word, other⟩ := binaryMarks_words _ mark
      cases h' with
      | literal atom => exact absurd same.symm (atom.ne_headed hv)
      | grouping => exact absurd (headed_inj word groupWord same).1 other
      | unary mark' inner =>
          obtain ⟨-, rest⟩ := headed_inj word (unaryMarks_words _ mark').1 same
          rw [List.append_assoc, List.cons_append] at rest
          obtain ⟨-, rest⟩ := ihl inner (closes_blank _) (closes_closing _) rest
          exact absurd (List.cons.inj rest).1 (by decide)
      | binary mark' left' right' =>
          obtain ⟨lexeme, rest⟩ := headed_inj word (binaryMarks_words _ mark').1 same
          rw [List.append_assoc, List.append_assoc, List.cons_append, List.cons_append] at rest
          obtain ⟨treel, rest⟩ := ihl left' (closes_blank _) (closes_blank _) rest
          have rest := (List.cons.inj rest).2
          obtain ⟨treer, rest⟩ := ihr right' (closes_closing _) (closes_closing _) rest
          refine ⟨?_, (List.cons.inj rest).2⟩
          rw [relabel, relabel, treel, treer, bare_eq (by decide) mark mark' lexeme]

theorem relabel_bare_of_render {a b : Expr} (ha : a.Legible) (hb : b.Legible) {text : String}
    (ra : a.render = .ok text) (rb : b.render = .ok text) :
    a.relabel Token.bare = b.relabel Token.bare := by
  have nothing : Closes [] := by simp [Closes]
  exact ((writes_of_renderWithin ha ra).unique (writes_of_renderWithin hb rb) nothing nothing rfl).1

end Expr

def operatorMarks : List (String × Kind) := unaryMarks ++ binaryMarks

/-- What a scan makes sure of: an operator is the one that is written, numbers are not NaN, strings are
texts without a quote, and all other tokens carry nothing. -/
structure Token.Faithful (t : Token) : Prop where
  operator : t.kind ∈ operatorMarks.map (·.2) → (t.lexeme, t.kind) ∈ operatorMarks
  number : t.kind = .number → ∃ x, t.payload = some (.number x) ∧ x.isNaN = false
  string : t.kind = .string → ∃ s, t.payload = some (.text s) ∧ '"' ∉ s.toList
  other : t.kind ≠ .number → t.kind ≠ .string → t.payload = none

theorem Number.Decimal.isNaN_toFloat (d : Decimal) : d.toFloat.isNaN = false := by
  have bound : d.magnitude ≤ infinity := by
    unfold magnitude
    split <;> exact nearest_le _ _
  rw [isNaN_eq_false_iff, toFloat, magnitude_ofMagnitude _ bound]
  exact bound

theorem Segment.Fits.mem_operatorMarks {kind : Kind} {cs after : List Char}
    (h : (mark kind cs).Fits after) (operator : kind ∈ operatorMarks.map (·.2)) :
    (String.ofList cs, kind) ∈ operatorMarks := by
  have singles : ∀ m ∈ singleMarks, m.2 ∈ operatorMarks.map (·.2) →
      (String.ofList [m.1], m.2) ∈ operatorMarks := by decide
  have pairs : ∀ m ∈ pairedMarks,
      (m.2.1 ∈ operatorMarks.map (·.2) → (String.ofList [m.1, '='], m.2.1) ∈ operatorMarks) ∧
      (m.2.2 ∈ operatorMarks.map (·.2) → (String.ofList [m.1], m.2.2) ∈ operatorMarks) := by decide
  cases h with
  | single hm => exact singles _ hm operator
  | double hm => exact (pairs _ hm).1 operator
  | unpaired hm _ => exact (pairs _ hm).2 operator
  | slash => decide

theorem ofWord_not_operator (w : String) : Kind.ofWord w ∉ operatorMarks.map (·.2) := by
  unfold Kind.ofWord
  cases h : Kind.words.lookup w with
  | none => decide
  | some kind =>
      have words : ∀ p ∈ Kind.words, p.2 ∉ operatorMarks.map (·.2) := by decide
      exact words _ (Segment.mem_of_lookup h)

theorem Token.faithful_of_none {t : Token} (kind : t.kind ∉ [Kind.number, .string, .endOfInput])
    (payload : t.payload = none)
    (operator : t.kind ∈ operatorMarks.map (·.2) → (t.lexeme, t.kind) ∈ operatorMarks) :
    t.Faithful := by
  simp only [List.mem_cons, not_or] at kind
  exact ⟨operator, fun eq => absurd eq kind.1, fun eq => absurd eq kind.2.1, fun _ _ => payload⟩

theorem Segment.Fits.faithful {s : Segment} {after : List Char} (h : s.Fits after) {t : Token}
    (said : s.content? = some t.content) : t.Faithful := by
  obtain ⟨kind, lexeme, line, payload⟩ := t
  obtain ⟨kind', told, content⟩ := Option.map_eq_some_iff.1 said
  simp only [Token.content, Prod.mk.injEq] at content
  obtain ⟨rfl, rfl, rfl⟩ := content
  have operands : Kind.number ∉ operatorMarks.map (·.2) ∧
      Kind.string ∉ operatorMarks.map (·.2) := by
    decide
  cases s with
  | mark kind cs =>
      obtain rfl := Option.some.inj told
      exact Token.faithful_of_none h.mark_not_mem rfl h.mem_operatorMarks
  | word cs =>
      obtain rfl := Option.some.inj told
      exact Token.faithful_of_none (ofWord_not_mem _) rfl fun mem =>
        absurd mem (ofWord_not_operator _)
  | number whole fraction =>
      obtain rfl := Option.some.inj told
      exact ⟨fun operator => absurd operator operands.1,
        fun _ => ⟨_, rfl, Number.Decimal.isNaN_toFloat _⟩, by simp, by simp⟩
  | string inner =>
      obtain rfl := Option.some.inj told
      have quote : '"' ∉ inner := by
        cases h
        assumption
      exact ⟨fun operator => absurd operator operands.2, by simp,
        fun _ => ⟨_, rfl, by rwa [String.toList_ofList]⟩, by simp⟩
  | comment | blank | unclosed | dangling | stray => cases told

theorem Scan.faithful_ofString (source : String) :
    ∀ t ∈ (Scan.ofString source).tokens, t.Faithful := by
  rw [Scan.ofString_eq, Scan.tokens_eq_spoken]
  intro t ht
  rcases List.mem_append.1 ht with ht | ht
  · obtain ⟨s, hs, said⟩ := Scan.exists_segment_of_mem_spoken t ht
    obtain ⟨after, fits⟩ := (segmented_segments source.toList).fits s hs
    exact fits.faithful said
  · obtain rfl := List.mem_singleton.1 ht
    have mark : Kind.endOfInput ∉ operatorMarks.map (·.2) := by decide
    exact ⟨fun operator => absurd operator mark, by simp [Token.endOfInput],
      by simp [Token.endOfInput], fun _ _ => rfl⟩

namespace Expr

theorem legible_of_spelled {e : Expr} {level : Grammar.Level} {ts : List Token}
    (ho : e.Obeys level) (hs : e.Spelled ts) (ht : ∀ t ∈ ts, t.Faithful) : e.Legible := by
  have unaries : ∀ m ∈ operatorMarks, m.2 ∈ Grammar.Level.unary.operators → m ∈ unaryMarks := by
    decide
  have binaries : ∀ m ∈ operatorMarks, m.2 ∈ Value.binaryOperators → m ∈ binaryMarks := by decide
  induction e generalizing level ts with
  | literal kind payload =>
      obtain ⟨t, rfl, rfl, rfl⟩ := hs.of_literal
      have faithful := ht t List.mem_cons_self
      refine ⟨fun number x hx => ?_, faithful.string, fun word => ?_⟩
      · obtain ⟨y, hy, number⟩ := faithful.number number
        rw [hy] at hx
        cases hx
        exact number
      · have words : Kind.number ∉ literalWords.map (·.2) ∧ Kind.string ∉ literalWords.map (·.2) := by
          decide
        exact faithful.other (fun eq => words.1 (eq ▸ word)) fun eq => words.2 (eq ▸ word)
  | grouping inner ih =>
      obtain ⟨opening, us, closing, rfl, -, hsi, -⟩ := hs.of_grouping
      exact ih ho hsi fun t hm => ht t (by simp [hm])
  | unary operator right ih =>
      obtain ⟨us, rfl, hsr⟩ := hs.of_unary
      have faithful := ht operator List.mem_cons_self
      have kind : operator.kind ∈ Grammar.Level.unary.operators := ho.2.1
      have marks : ∀ k ∈ Grammar.Level.unary.operators, k ∈ operatorMarks.map (·.2) := by decide
      exact ⟨unaries _ (faithful.operator (marks _ kind)) kind,
        ih ho.2.2 hsr fun t hm => ht t (by simp [hm])⟩
  | binary left operator right ihl ihr =>
      obtain ⟨us, vs, rfl, hsl, hsr⟩ := hs.of_binary
      obtain ⟨l, hl, hk, hol, hor⟩ := ho
      have faithful := ht operator (by simp)
      have kind := mem_binaryOperators hl hk
      have marks : ∀ k ∈ Value.binaryOperators, k ∈ operatorMarks.map (·.2) := by decide
      exact ⟨binaries _ (faithful.operator (marks _ kind)) kind,
        ihl hol hsl fun t hm => ht t (by simp [hm]), ihr hor hsr fun t hm => ht t (by simp [hm])⟩
  | missing => exact ho.elim

def unlined (e : Expr) : Expr := e.relabel fun t => { t with line := 1 }

theorem relabel_congr {f g : Token → Token} {e : Expr}
    (h : ∀ t, .operator t ∈ e.pieces → f t = g t) : e.relabel f = e.relabel g := by
  induction e with
  | literal | missing => rfl
  | grouping inner ih =>
      rw [relabel, ih fun t ht => h t (by simp [pieces, ht]), relabel]
  | unary operator right ih =>
      rw [relabel, h operator (by simp [pieces]), ih fun t ht => h t (by simp [pieces, ht]), relabel]
  | binary left operator right ihl ihr =>
      rw [relabel, h operator (by simp [pieces]), ihl fun t ht => h t (by simp [pieces, ht]),
        ihr fun t ht => h t (by simp [pieces, ht]), relabel]

def Unladen (e : Expr) : Prop := ∀ operator, .operator operator ∈ e.pieces → operator.payload = none

theorem unlined_eq_of_unladen {e : Expr} (h : e.Unladen) : e.unlined = e.relabel Token.bare :=
  relabel_congr fun t ht => by rw [Token.bare, ← h t ht]

theorem Legible.mem_operatorMarks {e : Expr} (he : e.Legible) {t : Token}
    (ht : .operator t ∈ e.pieces) : (t.lexeme, t.kind) ∈ operatorMarks := by
  induction e with
  | literal kind payload => simp [pieces] at ht
  | grouping inner ih => exact ih he (by simpa [pieces] using ht)
  | unary operator right ih =>
      rcases List.mem_cons.1 ht with top | below
      · obtain rfl := Piece.operator.inj top
        exact List.mem_append_left _ he.1
      · exact ih he.2 below
  | binary left operator right ihl ihr =>
      rcases List.mem_append.1 ht with below | ht
      · exact ihl he.2.1 below
      · rcases List.mem_cons.1 ht with top | below
        · obtain rfl := Piece.operator.inj top
          exact List.mem_append_right _ he.1
        · exact ihr he.2.2 below
  | missing => simp [pieces] at ht

theorem unladen_of_spelled {e : Expr} {ts : List Token} (he : e.Legible) (hs : e.Spelled ts)
    (ht : ∀ t ∈ ts, t.Faithful) : e.Unladen := by
  have operands : ∀ m ∈ operatorMarks, m.2 ≠ .number ∧ m.2 ≠ .string := by decide
  intro operator mem
  obtain ⟨number, string⟩ := operands _ (he.mem_operatorMarks mem)
  exact (ht operator (hs.mem_of_operator mem)).other number string

end Expr

theorem Run.legible_of_tree? {source : String} {e : Expr} (h : tree? false source [] = some e) :
    e.Legible ∧ e.Unladen := by
  obtain ⟨obeys, spelled⟩ := spelled_of_tree? h
  have faithful : ∀ t ∈ (Scan.ofString source).spoken, t.Faithful := fun t ht =>
    Scan.faithful_ofString source t (List.dropLast_subset _ ht)
  have legible := Expr.legible_of_spelled obeys spelled faithful
  exact ⟨legible, Expr.unladen_of_spelled legible spelled faithful⟩

/-- Trees with the same rendering have the same shape, the same literals, and operators with the same
lexeme. Where operators carry nothing, as in the tree of any source, all that can differ between the
two is the lines of the operators. -/
theorem render_injective {a b : Expr} {text : String} (ra : a.render = .ok text)
    (rb : b.render = .ok text) :
    (a.Legible → b.Legible →
      a.relabel Token.bare = b.relabel Token.bare ∧
        (a.Unladen → b.Unladen → a.unlined = b.unlined)) ∧
      ∀ source source', Run.tree? false source [] = some a → Run.tree? false source' [] = some b →
        a.unlined = b.unlined := by
  have agree : a.Legible → b.Legible → a.relabel Token.bare = b.relabel Token.bare ∧
      (a.Unladen → b.Unladen → a.unlined = b.unlined) := by
    intro ha hb
    have bare := Expr.relabel_bare_of_render ha hb ra rb
    refine ⟨bare, fun ua ub => ?_⟩
    rw [Expr.unlined_eq_of_unladen ua, bare, ← Expr.unlined_eq_of_unladen ub]
  refine ⟨agree, fun source source' ha hb => ?_⟩
  obtain ⟨legible, unladen⟩ := Run.legible_of_tree? ha
  obtain ⟨legible', unladen'⟩ := Run.legible_of_tree? hb
  exact (agree legible legible').2 unladen unladen'

theorem render_injective_lines :
    let one := Number.ofMagnitude false 0x3FF0000000000000
    let tree (line : Int) : Expr :=
      .binary (.unary ⟨.minus, "-", 1, none⟩ (.literal .number (some (.number one))))
        ⟨.minus, "-", line, none⟩ (.literal .string (some (.text " )")))
    let text := "(- (- 1) \x22 )\x22)"
    (tree 1).render = .ok text ∧ (tree 2).render = .ok text ∧ tree 1 ≠ tree 2 ∧
      ((tree 1).Legible ∧ (tree 2).Legible ∧ (tree 1).Unladen ∧ (tree 2).Unladen ∧
        (tree 1).relabel Token.bare = (tree 2).relabel Token.bare) ∧
      Run.tree? false "-1 - \x22 )\x22" [] = some (tree 1) ∧
      Run.tree? false "-1\n- \x22 )\x22" [] = some (tree 2) ∧
      (tree 1).unlined = (tree 2).unlined := by
  intro one tree text
  have first : (tree 1).render = .ok text := by decide +kernel
  have second : (tree 2).render = .ok text := by decide +kernel
  have read : Run.tree? false "-1 - \x22 )\x22" [] = some (tree 1) := by decide +kernel
  have read' : Run.tree? false "-1\n- \x22 )\x22" [] = some (tree 2) := by decide +kernel
  obtain ⟨legible, unladen⟩ := Run.legible_of_tree? read
  obtain ⟨legible', unladen'⟩ := Run.legible_of_tree? read'
  obtain ⟨trees, sources⟩ := render_injective first second
  exact ⟨first, second, by decide +kernel,
    ⟨legible, legible', unladen, unladen', (trees legible legible').1⟩,
    read, read', sources _ _ read read'⟩

end Reckoner

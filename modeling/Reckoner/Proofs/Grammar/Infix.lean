import Mathlib.Data.List.Forall2
import Reckoner.Grammar.Reading

namespace Reckoner

open Grammar

inductive Piece where
  | literal (kind : Kind) (payload : Option Payload)
  | opening
  | closing
  | operator (token : Token)
deriving DecidableEq

/-- A token stands for an operator only if it is the very one of the tree. -/
def Piece.Fits : Piece → Token → Prop
  | literal kind payload, t => t.kind = kind ∧ t.payload = payload
  | opening, t => t.kind = .leftParen
  | closing, t => t.kind = .rightParen
  | operator token, t => t = token

namespace Grammar.Level

def tighter : Level → Level
  | equality => comparison
  | comparison => addition
  | addition => multiplication
  | multiplication => unary
  | unary | primary => primary

/-- No expression from this level on can go on with what comes next. -/
def Stops (level : Level) (rest : List Token) : Prop :=
  ∀ t ∈ rest.head?, (∀ l ∈ level.binaries, t.kind ∉ l.operators) ∧
    (level.binaries ≠ [] → t.kind.startsOperand = false)

theorem binaries_eq_cons {level : Level} (h : level.binaries ≠ []) :
    level.binaries = level :: level.tighter.binaries := by
  cases level <;> first | rfl | exact absurd rfl h

theorem mem_binaries {level : Level} (h : level.binaries ≠ []) : level ∈ level.binaries := by
  rw [binaries_eq_cons h]
  exact List.mem_cons_self

theorem tighter_ne_primary {level : Level} (h : level.binaries ≠ []) : level.tighter ≠ primary := by
  cases level <;> first | exact absurd rfl h | decide

theorem operators_of_binaries {level : Level} (h : level.binaries ≠ []) :
    ∀ k ∈ level.operators,
      (∀ l ∈ level.tighter.binaries, k ∉ l.operators) ∧ k.startsOperand = false := by
  cases level <;> revert h <;> decide

theorem tighter_stops {level : Level} {t : Token} {rest : List Token}
    (hl : level.binaries ≠ []) (h : t.kind ∈ level.operators) : level.tighter.Stops (t :: rest) := by
  intro u hu
  obtain rfl : t = u := by simpa using hu
  obtain ⟨ho, hs⟩ := operators_of_binaries hl t.kind h
  exact ⟨ho, fun _ => hs⟩

theorem Stops.tighter {level : Level} {rest : List Token} (h : level.Stops rest)
    (hl : level.binaries ≠ []) : level.tighter.Stops rest := by
  intro t ht
  obtain ⟨ho, hs⟩ := h t ht
  rw [binaries_eq_cons hl] at ho
  refine ⟨fun l hm => ho l (List.mem_cons_of_mem _ hm), fun _ => hs hl⟩

theorem Stops.not_mem {level : Level} {rest : List Token} (h : level.Stops rest)
    (hl : level.binaries ≠ []) : ∀ t ∈ rest.head?, t.kind ∉ level.operators := by
  intro t ht
  exact (h t ht).1 level (mem_binaries hl)

theorem stops_of_not_mem {level : Level} {rest : List Token} (h : level.tighter.Stops rest)
    (hl : level.binaries ≠ []) (ho : ∀ t ∈ rest.head?, t.kind ∉ level.operators)
    (hs : ∀ t ∈ rest.head?, t.kind.startsOperand = false) : level.Stops rest := by
  intro t ht
  refine ⟨?_, fun _ => hs t ht⟩
  rw [binaries_eq_cons hl]
  intro l hm
  rcases List.mem_cons.1 hm with rfl | hm
  · exact ho t ht
  · exact (h t ht).1 l hm

theorem stops_of_binaries {level : Level} (h : level.binaries = []) (rest : List Token) :
    level.Stops rest :=
  fun _ _ => ⟨by simp [h], fun hn => absurd h hn⟩

theorem stops_of_closing (level : Level) {rest : List Token}
    (h : ∀ t ∈ rest.head?, t.kind = .endOfInput ∨ t.kind = .rightParen) : level.Stops rest := by
  intro t ht
  rcases h t ht with hk | hk <;> rw [hk] <;> cases level <;> decide

end Grammar.Level

namespace Expr

theorem of_ofToken {t : Token} {e : Expr} (h : ofToken t = .ok e) :
    e = literal t.kind t.payload ∧ t.kind.isLiteral = true ∧
      (t.kind = .number ∨ t.kind = .string → t.payload ≠ none) := by
  unfold ofToken at h
  split at h
  · simp at h
  next hk =>
    split at h
    · simp at h
    next hp =>
      refine ⟨(Except.ok.inj h).symm, by simpa using hk, ?_⟩
      intro hkind hnone
      exact hp ⟨hkind, hnone⟩

theorem ofToken_of_isLiteral {t : Token} (hk : t.kind.isLiteral = true)
    (hp : t.kind = .number ∨ t.kind = .string → t.payload ≠ none) :
    ofToken t = .ok (literal t.kind t.payload) := by
  unfold ofToken
  rw [if_neg (by simp [hk]), if_neg (fun h => hp h.1 h.2)]

def pieces : Expr → List Piece
  | literal kind payload => [.literal kind payload]
  | grouping inner => .opening :: (inner.pieces ++ [.closing])
  | unary operator right => .operator operator :: right.pieces
  | binary left operator right => left.pieces ++ .operator operator :: right.pieces
  | missing => []

/-- Tokens spell a tree if they stand for its pieces, one for each and in the same order. -/
def Spelled (e : Expr) (ts : List Token) : Prop := List.Forall₂ Piece.Fits e.pieces ts

/-- A tree obeys the precedence of the operators from a level on: an operator of a binary level has
trees of that level on its left and tighter ones on its right, a unary operator has no binary one
under it, and in parentheses anything goes. Literals have what their kind asks for. -/
def Obeys : Expr → Level → Prop
  | literal kind payload, _ =>
      kind.isLiteral = true ∧ (kind = .number ∨ kind = .string → payload ≠ none)
  | grouping inner, _ => inner.Obeys .equality
  | unary operator right, level =>
      level ≠ .primary ∧ operator.kind ∈ Level.unary.operators ∧ right.Obeys .unary
  | binary left operator right, level =>
      ∃ l ∈ level.binaries, operator.kind ∈ l.operators ∧ left.Obeys l ∧ right.Obeys l.tighter
  | missing, _ => False

instance decidableObeys : (e : Expr) → (level : Level) → Decidable (e.Obeys level)
  | literal kind payload, _ =>
      inferInstanceAs (Decidable (kind.isLiteral = true ∧
        (kind = .number ∨ kind = .string → payload ≠ none)))
  | grouping inner, _ => decidableObeys inner .equality
  | unary operator right, level =>
      have := decidableObeys right .unary
      inferInstanceAs (Decidable (level ≠ .primary ∧ operator.kind ∈ Level.unary.operators ∧
        right.Obeys .unary))
  | binary left operator right, level =>
      have (l : Level) := decidableObeys left l
      have (l : Level) := decidableObeys right l.tighter
      inferInstanceAs (Decidable (∃ l ∈ level.binaries, operator.kind ∈ l.operators ∧
        left.Obeys l ∧ right.Obeys l.tighter))
  | missing, _ => inferInstanceAs (Decidable False)

/-- The budget that the nesting of a tree takes up when it is read: on the worst path to a leaf,
seven units for each pair of parentheses and one for each unary operator. -/
def cost : Expr → Nat
  | literal _ _ | missing => 0
  | grouping inner => inner.cost + 7
  | unary _ right => right.cost + 1
  | binary left _ right => max left.cost right.cost

def Flat : Expr → Prop
  | literal _ _ => True
  | binary left _ right => left.Flat ∧ right.Flat
  | grouping _ | unary _ _ | missing => False

theorem cost_of_flat {e : Expr} (h : e.Flat) : e.cost = 0 := by
  induction e with
  | literal | missing => rfl
  | grouping | unary => exact h.elim
  | binary left operator right ihl ihr => rw [cost, ihl h.1, ihr h.2, Nat.max_self]

theorem Obeys.loosen {e : Expr} {level : Level} (hl : level.binaries ≠ [])
    (h : e.Obeys level.tighter) : e.Obeys level := by
  cases e with
  | literal | grouping | missing => exact h
  | unary operator right =>
      refine ⟨?_, h.2⟩
      rintro rfl
      exact hl rfl
  | binary left operator right =>
      obtain ⟨l, hm, h⟩ := h
      refine ⟨l, ?_, h⟩
      rw [Level.binaries_eq_cons hl]
      exact List.mem_cons_of_mem _ hm

theorem Obeys.of_unary {e : Expr} (h : e.Obeys .unary) {level : Level} (hl : level ≠ .primary) :
    e.Obeys level := by
  have hm : e.Obeys .multiplication := loosen (by decide) h
  have ha : e.Obeys .addition := loosen (by decide) hm
  have hc : e.Obeys .comparison := loosen (by decide) ha
  cases level with
  | equality => exact loosen (by decide) hc
  | comparison => exact hc
  | addition => exact ha
  | multiplication => exact hm
  | unary => exact h
  | primary => exact absurd rfl hl

theorem Obeys.of_primary {e : Expr} (h : e.Obeys .primary) (level : Level) : e.Obeys level := by
  cases e with
  | literal | grouping | missing => exact h
  | unary => exact absurd rfl h.1
  | binary =>
      obtain ⟨l, hm, -⟩ := h
      exact absurd hm List.not_mem_nil

theorem Obeys.cases_binary {e : Expr} {level : Level} (h : e.Obeys level)
    (hl : level.binaries ≠ []) :
    (∃ left operator right, e = binary left operator right ∧ operator.kind ∈ level.operators ∧
      left.Obeys level ∧ right.Obeys level.tighter) ∨ e.Obeys level.tighter := by
  cases e with
  | literal | grouping | missing => exact Or.inr h
  | unary operator right => exact Or.inr ⟨Level.tighter_ne_primary hl, h.2⟩
  | binary left operator right =>
      obtain ⟨l, hm, h⟩ := h
      rw [Level.binaries_eq_cons hl] at hm
      rcases List.mem_cons.1 hm with rfl | hm
      · exact Or.inl ⟨left, operator, right, rfl, h⟩
      · exact Or.inr ⟨l, hm, h⟩

theorem Spelled.binary {left right : Expr} {operator : Token} {us vs : List Token}
    (hl : left.Spelled us) (hr : right.Spelled vs) :
    (Expr.binary left operator right).Spelled (us ++ operator :: vs) :=
  List.rel_append hl (List.Forall₂.cons rfl hr)

theorem Spelled.grouping {inner : Expr} {opening closing : Token} {ts : List Token}
    (ho : opening.kind = .leftParen) (hi : inner.Spelled ts) (hc : closing.kind = .rightParen) :
    (Expr.grouping inner).Spelled (opening :: (ts ++ [closing])) :=
  List.Forall₂.cons ho (List.rel_append hi (List.Forall₂.cons hc List.Forall₂.nil))

theorem forall₂_append_left {as bs : List Piece} {ts : List Token}
    (h : List.Forall₂ Piece.Fits (as ++ bs) ts) :
    ∃ us vs, ts = us ++ vs ∧ List.Forall₂ Piece.Fits as us ∧ List.Forall₂ Piece.Fits bs vs := by
  refine ⟨ts.take as.length, ts.drop as.length, (List.take_append_drop _ ts).symm, ?_, ?_⟩
  · simpa using List.forall₂_take as.length h
  · simpa using List.forall₂_drop as.length h

theorem Spelled.of_unary {operator : Token} {right : Expr} {ts : List Token}
    (h : (Expr.unary operator right).Spelled ts) : ∃ us, ts = operator :: us ∧ right.Spelled us := by
  obtain ⟨_, us, rfl, hr, rfl⟩ := List.forall₂_cons_left_iff.1 h
  exact ⟨us, rfl, hr⟩

theorem Spelled.of_binary {left right : Expr} {operator : Token} {ts : List Token}
    (h : (Expr.binary left operator right).Spelled ts) :
    ∃ us vs, ts = us ++ operator :: vs ∧ left.Spelled us ∧ right.Spelled vs := by
  obtain ⟨us, ws, rfl, hl, hw⟩ := forall₂_append_left h
  obtain ⟨_, vs, rfl, hr, rfl⟩ := List.forall₂_cons_left_iff.1 hw
  exact ⟨us, vs, rfl, hl, hr⟩

theorem Spelled.of_grouping {inner : Expr} {ts : List Token}
    (h : (Expr.grouping inner).Spelled ts) :
    ∃ opening us closing, ts = opening :: (us ++ [closing]) ∧ opening.kind = .leftParen ∧
      inner.Spelled us ∧ closing.kind = .rightParen := by
  obtain ⟨opening, ws, ho, hw, rfl⟩ := List.forall₂_cons_left_iff.1 h
  obtain ⟨us, vs, rfl, hi, hv⟩ := forall₂_append_left hw
  obtain ⟨closing, _, hc, he, rfl⟩ := List.forall₂_cons_left_iff.1 hv
  obtain rfl := List.forall₂_nil_left_iff.1 he
  exact ⟨opening, us, closing, rfl, ho, hi, hc⟩

theorem Spelled.of_literal {kind : Kind} {payload : Option Payload} {ts : List Token}
    (h : (Expr.literal kind payload).Spelled ts) :
    ∃ t, ts = [t] ∧ t.kind = kind ∧ t.payload = payload := by
  obtain ⟨t, _, ht, he, rfl⟩ := List.forall₂_cons_left_iff.1 h
  obtain rfl := List.forall₂_nil_left_iff.1 he
  exact ⟨t, rfl, ht⟩

end Expr

end Reckoner

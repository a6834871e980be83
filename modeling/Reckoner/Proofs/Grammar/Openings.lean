import Reckoner.Proofs.Grammar.Budget

namespace Reckoner.Grammar

inductive Opening where
  | sign
  | paren

def Opening.cost : Opening → Nat
  | sign => 1
  | paren => 7

def costs : List Opening → Nat
  | [] => 0
  | o :: opened => o.cost + costs opened

/-- What is left open when an operand is complete: no unary operator directly before it. -/
def settle : List Opening → List Opening
  | .sign :: opened => settle opened
  | opened => opened

/-- Where a reading stands: whether an operand is due, and what is open, the innermost first. -/
structure Nesting where
  due : Bool
  opened : List Opening

namespace Nesting

def cost (n : Nesting) : Nat := costs n.opened

def next (n : Nesting) (k : Kind) : Nesting :=
  if n.due then
    if k = .leftParen then ⟨true, .paren :: n.opened⟩
    else if k ∈ Level.unary.operators then ⟨true, .sign :: n.opened⟩
    else ⟨false, settle n.opened⟩
  else if k = .rightParen then ⟨false, settle n.opened.tail⟩
  else ⟨true, n.opened⟩

def run (n : Nesting) (ts : List Token) : Nesting := ts.foldl (fun n t => n.next t.kind) n

end Nesting

variable {α β : Type} {limit : Nat} {n m l : Nesting} {opened : List Opening} {s s₁ s' : State}
  {us vs : List Token}

namespace Nesting

theorem run_append (n : Nesting) (us vs : List Token) : n.run (us ++ vs) = (n.run us).run vs :=
  List.foldl_append

end Nesting

/-- With the tokens `used` taken from the nesting `n` on, a rule comes to the result `r`, and to the
nesting `m` if it succeeds. Before each of the tokens it was within the limit, and it has run out of
its budget if and only if it is not any more. -/
structure Pays (limit : Nat) (n m : Nesting) (used : List Token) (r : Except Fault α) : Prop where
  within : ∀ k < used.length, (n.run (used.take k)).cost ≤ limit
  deep : r = .error .depth ↔ limit < (n.run used).cost
  done : ∀ a, r = .ok a → n.run used = m

def PaysFrom (limit : Nat) (n m : Nesting) (s : State) (p : Rule α) : Prop :=
  ∃ used, s.rest = used ++ (p s).2.rest ∧ Pays limit n m used (p s).1

theorem Pays.cost_le {r : Except Fault α} (h : Pays limit n m us r) (hr : r ≠ .error .depth) :
    (n.run us).cost ≤ limit :=
  Nat.le_of_not_lt fun beyond => hr (h.deep.2 beyond)

theorem Pays.behind {r : Except Fault α} (hw : ∀ k < us.length, (n.run (us.take k)).cost ≤ limit)
    (h : Pays limit (n.run us) m vs r) : Pays limit n m (us ++ vs) r := by
  refine ⟨fun k hk => ?_, ?_, ?_⟩
  · rcases Nat.lt_or_ge k us.length with early | late
    · rw [List.take_append_of_le_length (Nat.le_of_lt early)]
      exact hw k early
    · obtain ⟨j, rfl⟩ := Nat.exists_eq_add_of_le late
      rw [List.take_length_add_append, Nesting.run_append]
      rw [List.length_append] at hk
      exact h.within j (by omega)
  · rw [Nesting.run_append]
    exact h.deep
  · rw [Nesting.run_append]
    exact h.done

namespace PaysFrom

variable {p : Rule α} {f : α → Rule β}

theorem behind {c q : Rule α} (hr : s.rest = us ++ s₁.rest)
    (hw : ∀ k < us.length, (n.run (us.take k)).cost ≤ limit)
    (h : PaysFrom limit (n.run us) m s₁ q) (hc : c s = q s₁) : PaysFrom limit n m s c := by
  obtain ⟨vs, rest, pays⟩ := h
  refine ⟨us ++ vs, ?_, ?_⟩
  · rw [hr, rest, hc, List.append_assoc]
  · rw [hc]
    exact pays.behind hw

theorem still {r : Except Fault α} (h : p s = (r, s')) (rest : s'.rest = s.rest)
    (deep : r = .error .depth ↔ limit < n.cost) (done : ∀ a, r = .ok a → n = m) :
    PaysFrom limit n m s p := by
  refine ⟨[], ?_, ?_⟩
  · rw [h, rest, List.nil_append]
  · rw [h]
    exact ⟨by simp, deep, done⟩

theorem bind (hp : PaysFrom limit n m s p)
    (hf : ∀ a s₁, p s = (.ok a, s₁) → m.cost ≤ limit → PaysFrom limit m l s₁ (f a)) :
    PaysFrom limit n l s (p >>= f) := by
  obtain ⟨us, rest, pays⟩ := hp
  cases h : p s with
  | mk r s₁ =>
      rw [h] at rest pays
      cases r with
      | ok a =>
          have arrived : n.run us = m := pays.done a rfl
          have low : m.cost ≤ limit := arrived ▸ pays.cost_le (by simp)
          refine behind rest pays.within ?_ (Rule.bind_of_ok h)
          rw [arrived]
          exact hf a s₁ h low
      | error fault =>
          refine ⟨us, ?_, ?_⟩
          · rw [Rule.bind_of_error h]
            exact rest
          · rw [Rule.bind_of_error h]
            refine ⟨pays.within, ?_, by simp⟩
            rw [← pays.deep, Except.error.injEq, Except.error.injEq]

theorem of_peek {f : Option Token → Rule α}
    (h : ∀ s₁, Moves s [] s₁ → PaysFrom limit n m s₁ (f s.rest.head?)) :
    PaysFrom limit n m s (peek >>= f) := by
  obtain ⟨s₁, hm, same⟩ := peek_bind (f := f) (s := s) rfl
  exact behind hm.rest (by simp) (h s₁ hm) same.symm

theorem of_taken {t : Token} {c q : Rule α} (hn : n.cost ≤ limit) (hm : Moves s [t] s₁)
    (h : PaysFrom limit (n.next t.kind) m s₁ q) (hc : c s = q s₁) : PaysFrom limit n m s c := by
  refine behind hm.rest (fun k hk => ?_) h hc
  obtain rfl : k = 0 := by simpa using hk
  exact hn

theorem of_refuse (hn : n.cost ≤ limit) (next : Option Token) (o : Objection) :
    PaysFrom limit n m s (refuse next o : Rule α) :=
  still rfl rfl (by simpa using hn) (by simp)

end PaysFrom

end Reckoner.Grammar

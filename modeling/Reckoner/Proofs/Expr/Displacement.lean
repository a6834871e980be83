import Reckoner.Proofs.Expr.Relabelling
import Reckoner.Proofs.Grammar.Infix
import Reckoner.Proofs.Source.Joining

namespace Reckoner

def EvalFault.down (k : Int) : EvalFault → EvalFault
  | operands operator demand => operands (operator.down k) demand
  | tooDeep blamed => tooDeep (blamed.down k)
  | fault => fault

theorem Token.down_relabels (k : Int) : Relabels (Token.down k) := ⟨fun _ => rfl, fun _ => rfl⟩

namespace Expr

open Grammar

def down (k : Int) : Expr → Expr
  | literal kind payload => literal kind payload
  | grouping inner => grouping (inner.down k)
  | unary operator right => unary (operator.down k) (right.down k)
  | binary left operator right => binary (left.down k) (operator.down k) (right.down k)
  | missing => missing

theorem Obeys.down {e : Expr} {level : Level} (h : e.Obeys level) (k : Int) :
    (e.down k).Obeys level := by
  induction e generalizing level with
  | literal | missing => exact h
  | grouping inner ih => exact ih h
  | unary operator right ih => exact ⟨h.1, h.2.1, ih h.2.2⟩
  | binary left operator right ihl ihr =>
      obtain ⟨l, hm, hk, hl, hr⟩ := h
      exact ⟨l, hm, hk, ihl hl, ihr hr⟩

theorem Spelled.down {e : Expr} {ts : List Token} (h : e.Spelled ts) (k : Int) :
    (e.down k).Spelled (ts.map (Token.down k)) := by
  induction e generalizing ts with
  | literal kind payload =>
      obtain ⟨t, rfl, hk, hp⟩ := h.of_literal
      exact .cons ⟨hk, hp⟩ .nil
  | grouping inner ih =>
      obtain ⟨opening, us, closing, rfl, ho, hi, hc⟩ := h.of_grouping
      rw [List.map_cons, List.map_append]
      exact (ih hi).grouping ho hc
  | unary operator right ih =>
      obtain ⟨us, rfl, hr⟩ := h.of_unary
      exact .cons rfl (ih hr)
  | binary left operator right ihl ihr =>
      obtain ⟨us, vs, rfl, hl, hr⟩ := h.of_binary
      rw [List.map_append]
      exact (ihl hl).binary (ihr hr)
  | missing =>
      obtain rfl := List.forall₂_nil_left_iff.1 h
      exact .nil

theorem down_eq_relabel (k : Int) (e : Expr) : e.down k = e.relabel (Token.down k) := by
  induction e with
  | literal | missing => rfl
  | grouping inner ih | unary operator inner ih => rw [down, relabel, ih]
  | binary left operator right ihl ihr => rw [down, relabel, ihl, ihr]

theorem walk_down (k : Int) (e : Expr) :
    (e.down k).walk = e.walk.mapError (EvalFault.down k) := by
  have same : EvalFault.relabel (Token.down k) (Token.down k) = EvalFault.down k := by
    funext fault
    cases fault <;> rfl
  rw [down_eq_relabel, walk_relabel (Token.down_relabels k) (Token.down k), same]

end Expr

end Reckoner

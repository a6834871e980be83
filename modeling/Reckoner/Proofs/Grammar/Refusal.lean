import Reckoner.Proofs.Grammar.Locality

namespace Reckoner.Grammar

def Ready (s : State) : Prop :=
  ∀ t ∈ s.rest, t.kind = .number ∨ t.kind = .string → t.payload ≠ none

variable {budget : Nat} {s s' : State}

theorem readAll_refuses {fault : Fault} (hs : Ready s)
    (h : readAll budget s = (.error fault, s')) : ∃ t objection, fault = .refused t objection := by
  obtain ⟨used, ends⟩ := (readAll_local budget).ends h
  cases fault with
  | refused t objection => exact ⟨t, objection, rfl⟩
  | depth => exact absurd (congrArg Prod.fst h) (readAll_ne_depth budget s)
  | literal cause =>
      obtain ⟨t, ht, hk, fails⟩ := ends.literal cause rfl
      have rest : s.rest = used ++ s'.rest := ends.moves.rest
      have loaded := hs t (rest ▸ List.mem_append_left _ ht)
      rw [Expr.ofToken_of_isLiteral hk loaded] at fails
      cases fails

end Reckoner.Grammar

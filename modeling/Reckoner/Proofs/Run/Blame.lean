import Reckoner.Proofs.Run.Stages

namespace Reckoner

namespace Expr

theorem Spelled.mem_of_operator {e : Expr} {ts : List Token} (h : e.Spelled ts) {operator : Token}
    (ho : .operator operator ∈ e.pieces) : operator ∈ ts := by
  unfold Spelled at h
  generalize e.pieces = pieces at h ho
  induction h with
  | nil => exact absurd ho List.not_mem_nil
  | cons fits _ ih =>
      rcases List.mem_cons.1 ho with rfl | ho
      · obtain rfl := fits
        exact List.mem_cons_self
      · exact List.mem_cons_of_mem _ (ih ho)

end Expr

namespace Run

variable {threshold : Nat} {failFast : Bool} {source : String} {earlier : List Diagnostic}

end Run

end Reckoner

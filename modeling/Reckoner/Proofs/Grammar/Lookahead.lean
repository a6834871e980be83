import Reckoner.Proofs.Grammar.Locality

namespace Reckoner.Grammar

inductive Entry (budget : Nat) : Rule Expr → Prop
  | whole : Entry budget (readAll budget)
  | level (l : Level) : Entry budget (read budget l)

variable {α : Type} {p : Rule α} {tokens tokens' : List Token} {earlier : List Diagnostic}
  {r : Except Fault α} {s : State}

end Reckoner.Grammar

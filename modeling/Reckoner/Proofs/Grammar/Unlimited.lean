import Reckoner.Proofs.Grammar.Objections
import Reckoner.Proofs.Grammar.Openings

namespace Reckoner.Grammar

def finish (tree : Expr) : Rule Expr := do
  match ← peek with
  | some t => if t.kind = .endOfInput then pure tree else refuse (some t) .expectedEnd
  | none => pure tree

def whole (p : Rule Expr) : Rule Expr := p >>= finish

variable {budget limit : Nat} {p q : Rule Expr} {s s' : State} {tokens used : List Token}
  {earlier : List Diagnostic}

end Reckoner.Grammar

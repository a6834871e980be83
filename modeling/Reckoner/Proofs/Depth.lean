import Reckoner.Proofs.Expr.Levels
import Reckoner.Proofs.Grammar.Unlimited

namespace Reckoner

open Grammar

end Reckoner

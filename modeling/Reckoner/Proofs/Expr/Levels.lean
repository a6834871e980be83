import Reckoner.Proofs.Expr.Rendering

namespace Reckoner.Expr

end Reckoner.Expr

import Reckoner.Depth
import Reckoner.Value.Operation

namespace Reckoner.Expr

def literalValue : Kind → Option Payload → Except EvalFault Value
  | .number, some (.number x) => .ok (.number x)
  | .string, some (.text s) => .ok (.string s)
  | .trueWord, _ => .ok (.bool true)
  | .falseWord, _ => .ok (.bool false)
  | .nilWord, _ => .ok .nil
  | .number, _ => .error (.payload .number)
  | .string, _ => .error (.payload .string)
  | kind, _ => .error (.literalKind kind)

/-- The value of a tree that may open `depth` levels; entering one more is blamed on `outer`. -/
def evaluateWithin (outer : Token) : Nat → Expr → Except EvalFault Value
  | 0, _ => .error (.tooDeep outer)
  | _ + 1, literal kind payload => literalValue kind payload
  | depth + 1, grouping inner => evaluateWithin outer depth inner
  | depth + 1, unary operator right =>
      match evaluateWithin outer depth right with
      | .error fault => .error fault
      | .ok r => Value.unary operator r
  | depth + 1, binary left operator right =>
      match evaluateWithin outer depth left with
      | .error fault => .error fault
      | .ok l =>
          match evaluateWithin outer depth right with
          | .error fault => .error fault
          | .ok r => Value.binary operator l r
  | _ + 1, missing => .error .missingNode

def evaluate (e : Expr) : Except EvalFault Value := evaluateWithin e.outermost depthBudget e

end Reckoner.Expr

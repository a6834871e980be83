import Reckoner.Diagnostic
import Reckoner.Expr.Basic
import Reckoner.Value.Basic

namespace Reckoner

inductive Demand where
  | number
  | boolean
  | numbers
  | numbersOrStrings
deriving DecidableEq

def Demand.message : Demand → String
  | number => "Operand must be a number."
  | boolean => "Operand must be a boolean."
  | numbers => "Operands must be numbers."
  | numbersOrStrings => "Operands must be two numbers or two strings."

inductive EvalFault where
  | operands (operator : Token) (demand : Demand)
  | tooDeep (blamed : Token)
  | literalKind (kind : Kind)
  /-- A literal whose payload is not of its kind, or not there. No source leads to one. -/
  | payload (kind : Kind)
  | unaryOperator (kind : Kind)
  | binaryOperator (kind : Kind)
  | missingNode
  /-- A quotient that there is not. -/
  | zeroDivisor
deriving DecidableEq

namespace EvalFault

def blame? : EvalFault → Option (Token × String)
  | operands operator demand => some (operator, demand.message)
  | tooDeep blamed => some (blamed, "Expression nested too deeply.")
  | _ => none

def message : EvalFault → String
  | operands operator demand => (Diagnostic.ofToken operator demand.message).text
  | tooDeep blamed => (Diagnostic.ofToken blamed "Expression nested too deeply.").text
  | literalKind kind => "invalid literal kind " ++ kind.name
  | payload kind => "invalid literal value for " ++ kind.name
  | unaryOperator kind => "invalid unary operator " ++ kind.name
  | binaryOperator kind => "invalid binary operator " ++ kind.name
  | missingNode => "invalid node type"
  | zeroDivisor => "float division by zero"

end EvalFault

namespace Value

def unary (operator : Token) (right : Value) : Except EvalFault Value :=
  match operator.kind, right with
  | .minus, number x => .ok (number (-x))
  | .minus, _ => .error (.operands operator .number)
  | .bang, bool b => .ok (bool !b)
  | .bang, _ => .error (.operands operator .boolean)
  | kind, _ => .error (.unaryOperator kind)

def quotient (x y : Float) : Except EvalFault Float :=
  if y == 0 then .error .zeroDivisor else .ok (x / y)

/-- Division by any number. A divisor equal to zero makes infinity with the sign of the two numbers
together, and a NaN where the dividend is zero or a NaN itself. -/
def divide (x y : Float) : Except EvalFault Float :=
  if y != 0 then quotient x y
  else if x == 0 || x.isNaN then .ok (Number.ofMagnitude false Number.notANumber)
  else .ok (Number.ofMagnitude (Number.isNegative x != Number.isNegative y) Number.infinity)

def arithmetic (operator : Token) (f : Float → Float → Except EvalFault Float) :
    Value → Value → Except EvalFault Value
  | number x, number y => (f x y).map number
  | _, _ => .error (.operands operator .numbers)

def comparison (operator : Token) (f : Float → Float → Bool) :
    Value → Value → Except EvalFault Value
  | number x, number y => .ok (bool (f x y))
  | _, _ => .error (.operands operator .numbers)

def sum (operator : Token) : Value → Value → Except EvalFault Value
  | number x, number y => .ok (number (x + y))
  | string s, string t => .ok (string (s ++ t))
  | _, _ => .error (.operands operator .numbersOrStrings)

def binary (operator : Token) (left right : Value) : Except EvalFault Value :=
  match operator.kind with
  | .plus => sum operator left right
  | .minus => arithmetic operator (fun x y => .ok (x - y)) left right
  | .star => arithmetic operator (fun x y => .ok (x * y)) left right
  | .slash => arithmetic operator divide left right
  | .greater => comparison operator (fun x y => decide (y < x)) left right
  | .greaterEqual => comparison operator (fun x y => decide (y ≤ x)) left right
  | .less => comparison operator (fun x y => decide (x < y)) left right
  | .lessEqual => comparison operator (fun x y => decide (x ≤ y)) left right
  | .equalEqual => .ok (bool (same left right))
  | .bangEqual => .ok (bool !(same left right))
  | kind => .error (.binaryOperator kind)

end Value

end Reckoner

import Reckoner.Depth
import Reckoner.Expr.Basic

namespace Reckoner

inductive RenderFault where
  | literalKind
  | notNumber (given : Option Payload)
  | missingNode
  | tooDeep
deriving DecidableEq

def RenderFault.message : RenderFault → String
  | literalKind => "invalid literal kind"
  | notNumber given => "must be real number, not " ++ Payload.typeName given
  | missingNode => "invalid node type"
  | tooDeep => "maximum depth exceeded"

namespace Expr

def innerText : Option Payload → String
  | some (.text s) => s
  | some (.number x) => Number.pointed x
  | none => "None"

/-- Whatever a string carries stands between its quotes. -/
def literalText : Kind → Option Payload → Except RenderFault String
  | .number, some (.number x) => .ok (Number.plain x)
  | .number, given => .error (.notNumber given)
  | .string, given => .ok ("\x22" ++ innerText given ++ "\x22")
  | .trueWord, _ => .ok "true"
  | .falseWord, _ => .ok "false"
  | .nilWord, _ => .ok "nil"
  | _, _ => .error .literalKind

/-- The tree as text, every operator before its operands and every node in parentheses. -/
def renderWithin : Nat → Expr → Except RenderFault String
  | 0, _ => .error .tooDeep
  | _ + 1, literal kind payload => literalText kind payload
  | depth + 1, grouping inner =>
      match renderWithin depth inner with
      | .ok s => .ok ("(group " ++ s ++ ")")
      | .error fault => .error fault
  | depth + 1, unary operator right =>
      match renderWithin depth right with
      | .ok s => .ok ("(" ++ operator.lexeme ++ " " ++ s ++ ")")
      | .error fault => .error fault
  | depth + 1, binary left operator right =>
      match renderWithin depth left with
      | .error fault => .error fault
      | .ok l =>
          match renderWithin depth right with
          | .error fault => .error fault
          | .ok r => .ok ("(" ++ operator.lexeme ++ " " ++ l ++ " " ++ r ++ ")")
  | _ + 1, missing => .error .missingNode

def render (e : Expr) : Except RenderFault String := renderWithin depthBudget e

end Expr

end Reckoner

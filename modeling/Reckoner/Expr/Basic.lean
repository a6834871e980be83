import Reckoner.Token.Basic

namespace Reckoner

inductive Expr where
  | literal (kind : Kind) (payload : Option Payload)
  | grouping (inner : Expr)
  | unary (operator : Token) (right : Expr)
  | binary (left : Expr) (operator : Token) (right : Expr)
  /-- A place in a tree that holds nothing. -/
  | missing
deriving DecidableEq

inductive LiteralFault where
  | notLiteral (kind : Kind)
  | noPayload (kind : Kind)
  | noToken
deriving DecidableEq

def LiteralFault.message : LiteralFault → String
  | noToken => "no token left"
  | notLiteral kind => "invalid literal token " ++ kind.name
  | noPayload kind => kind.name ++ " token without a value"

inductive Node where
  | literal (kind : Kind) (payload : Option Payload)
  | grouping
  | unary (operator : Token)
  | binary (operator : Token)
  | missing
deriving DecidableEq

namespace Expr

/-- The literal that a token stands for. Numbers and strings need their payload. -/
def ofToken (t : Token) : Except LiteralFault Expr :=
  if !t.kind.isLiteral then .error (.notLiteral t.kind)
  else if (t.kind = .number ∨ t.kind = .string) ∧ t.payload = none then .error (.noPayload t.kind)
  else .ok (literal t.kind t.payload)

def postorder : Expr → List Node
  | literal kind payload => [.literal kind payload]
  | grouping inner => inner.postorder ++ [.grouping]
  | unary operator right => right.postorder ++ [.unary operator]
  | binary left operator right => left.postorder ++ right.postorder ++ [.binary operator]
  | missing => [.missing]

/-- The operator at the top of a tree, under any groupings; a mark on line one if there is none. -/
def outermost : Expr → Token
  | grouping inner => inner.outermost
  | unary operator _ | binary _ operator _ => operator
  | literal _ _ | missing => Token.endOfInput 1

end Expr

end Reckoner

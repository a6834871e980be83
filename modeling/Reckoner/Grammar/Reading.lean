import Reckoner.Depth
import Reckoner.Grammar.State

namespace Reckoner.Grammar

/-- The levels of precedence, the loosest first. -/
inductive Level where
  | equality | comparison | addition | multiplication | unary | primary
deriving DecidableEq

def Level.operators : Level → List Kind
  | equality => [.bangEqual, .equalEqual]
  | comparison => [.greater, .greaterEqual, .less, .lessEqual]
  | addition => [.minus, .plus]
  | multiplication => [.slash, .star]
  | unary => [.bang, .minus]
  | primary => []

/-- Extends `left` to the right as long as operators follow. Every round takes a token, so no more
rounds are needed than tokens are `pending`. -/
def extend (operators : List Kind) (operand : Rule Expr) : List Token → Expr → Rule Expr
  | [], left => pure left
  | _ :: pending, left => do
    match ← accept operators with
    | some operator => extend operators operand pending (.binary left operator (← operand))
    | none => pure left

/-- A chain of operands with operators of one level between them, grouped to the left. -/
def chain (level : Level) (operand : Rule Expr) : Rule Expr := do
  let left ← operand
  let tree ← fun s => extend level.operators operand s.rest left s
  refuseOperand
  pure tree

def Level.binaries : Level → List Level
  | equality => [equality, comparison, addition, multiplication]
  | comparison => [comparison, addition, multiplication]
  | addition => [addition, multiplication]
  | multiplication => [multiplication]
  | unary | primary => []

def binaryOver (unary : Rule Expr) (level : Level) : Rule Expr :=
  level.binaries.foldr chain unary

def primaryOver (inner : Rule Expr) : Rule Expr := do
  match ← peek with
  | none => refuse none .expectedExpression
  | some t =>
      if t.kind.isLiteral then
        match Expr.ofToken (← take) with
        | .ok tree => pure tree
        | .error fault => fail (.literal fault)
      else if t.kind = .leftParen then
        let _ ← take
        let tree ← inner
        let _ ← expect .rightParen .expectedClosing
        pure (.grouping tree)
      else refuse (some t) .expectedExpression

def unaryOver (nested inner : Rule Expr) : Rule Expr := do
  match ← accept Level.unary.operators with
  | some operator => return .unary operator (← nested)
  | none => primaryOver inner

/-- The budget bounds how deep rules open inside each other. A parenthesis costs seven units, one for
each rule that it opens, and a unary operator one; binary operators are read in a loop and cost
nothing. -/
def unary : Nat → Rule Expr
  | 0 => unaryOver (fail .depth) (fail .depth)
  | rest + 7 => unaryOver (unary (rest + 6)) (binaryOver (unary rest) .equality)
  | rest + 1 => unaryOver (unary rest) (fail .depth)

def inside : Nat → Rule Expr
  | rest + 7 => binaryOver (unary rest) .equality
  | _ => fail .depth

theorem unary_zero : unary 0 = unaryOver (fail .depth) (inside 0) := rfl

theorem unary_succ (budget : Nat) :
    unary (budget + 1) = unaryOver (unary budget) (inside (budget + 1)) := by
  rcases budget with _ | _ | _ | _ | _ | _ | rest <;> rfl

theorem inside_add_seven (rest : Nat) : inside (rest + 7) = binaryOver (unary rest) .equality := rfl

theorem inside_of_lt {budget : Nat} (h : budget < 7) : inside budget = fail .depth := by
  unfold inside
  split
  next rest => omega
  next => rfl

def read (budget : Nat) : Level → Rule Expr
  | .primary => primaryOver (inside budget)
  | level => binaryOver (unary budget) level

/-- A whole expression and nothing after it but a mark. A reading that opens too deep objects to the
token at which it stands. -/
def readAll (budget : Nat) : Rule Expr := fun s =>
  match read budget .equality s with
  | (.error .depth, s') => (do refuse (← peek) .tooDeep : Rule Expr) s'
  | (.error fault, s') => (.error fault, s')
  | (.ok tree, s') =>
      (do
        match ← peek with
        | some t => if t.kind = .endOfInput then pure tree else refuse (some t) .expectedEnd
        | none => pure tree : Rule Expr) s'

end Reckoner.Grammar

namespace Reckoner.Expr

def ofTokens (tokens : List Token) (diagnostics : List Diagnostic) :
    Except Grammar.Fault Expr × List Diagnostic :=
  let (result, state) := Grammar.readAll depthBudget (Grammar.State.start tokens diagnostics)
  (result, state.diagnostics)

end Reckoner.Expr

import Reckoner.Cursor
import Reckoner.Diagnostic
import Reckoner.Expr.Basic

namespace Reckoner.Grammar

inductive Objection where
  | expectedExpression
  | unexpectedExpression
  | expectedClosing
  | expectedEnd
  | tooDeep
  | other (message : String)
deriving DecidableEq

def Objection.message : Objection → String
  | expectedExpression => "Expected expression."
  | unexpectedExpression => "Unexpected Expression"
  | expectedClosing => "Expect ')' after expression."
  | expectedEnd => "Expect end of expression."
  | tooDeep => "Expression nested too deeply."
  | other message => message

inductive Fault where
  | refused (token : Token) (objection : Objection)
  | literal (fault : LiteralFault)
  /-- The budget ran out inside a rule. -/
  | depth
deriving DecidableEq

def Fault.message : Fault → String
  | refused token objection => Diagnostic.report token.line token.location objection.message
  | literal fault => fault.message
  | depth => "maximum depth exceeded"

structure State where
  tokens : Cursor Token
  last : Option Token
  diagnostics : List Diagnostic
deriving DecidableEq

def State.rest (s : State) : List Token := s.tokens.rest

def State.start (tokens : List Token) (diagnostics : List Diagnostic) : State :=
  ⟨Cursor.ofList tokens, none, diagnostics⟩

/-- A rule of the grammar, or a part of one. A rule that fails keeps the state it has reached. -/
def Rule (α : Type) : Type := State → Except Fault α × State

namespace Rule

def andThen {α β : Type} (p : Rule α) (f : α → Rule β) : Rule β := fun s =>
  match p s with
  | (.ok a, s') => f a s'
  | (.error fault, s') => (.error fault, s')

instance : Monad Rule where
  pure a := fun s => (.ok a, s)
  bind := andThen

variable {α β : Type}

theorem pure_apply (a : α) (s : State) : (pure a : Rule α) s = (.ok a, s) := rfl

theorem bind_of_ok {p : Rule α} {f : α → Rule β} {s s' : State} {a : α} (h : p s = (.ok a, s')) :
    (p >>= f) s = f a s' := by
  change andThen p f s = f a s'
  rw [andThen, h]

theorem bind_of_error {p : Rule α} {f : α → Rule β} {s s' : State} {fault : Fault}
    (h : p s = (.error fault, s')) : (p >>= f) s = (.error fault, s') := by
  change andThen p f s = (.error fault, s')
  rw [andThen, h]

end Rule

def fail {α : Type} (fault : Fault) : Rule α := fun s => (.error fault, s)

def peek : Rule (Option Token) := fun s =>
  (.ok s.tokens.peek.1, { s with tokens := s.tokens.peek.2 })

def advance : Rule (Option Token) := fun s =>
  match s.tokens.next with
  | (some t, rest) => (.ok (some t), { s with tokens := rest, last := some t })
  | (none, rest) => (.ok none, { s with tokens := rest })

def take : Rule Token := do
  match ← advance with
  | some t => pure t
  | none => fail (.literal .noToken)

def accept (kinds : List Kind) : Rule (Option Token) := fun s =>
  match s.tokens.nextIf (kinds.contains ·.kind) with
  | (some t, rest) => (.ok (some t), { s with tokens := rest, last := some t })
  | (none, rest) => (.ok none, { s with tokens := rest })

/-- Reports an objection and fails. Where no token is left, it is against a mark on the line of the
last token. -/
def refuse {α : Type} (token : Option Token) (objection : Objection) : Rule α := fun s =>
  let blamed := token.getD (Token.endOfInput ((s.last.map Token.line).getD 1))
  (.error (.refused blamed objection),
    { s with diagnostics := s.diagnostics ++ [.ofToken blamed objection.message] })

theorem fst_peek (s : State) : (peek s).1 = .ok s.rest.head? := by
  simp [peek, Cursor.peek, State.rest]

theorem rest_peek (s : State) : (peek s).2.rest = s.rest := by
  simp [peek, Cursor.peek, State.rest]

theorem fst_advance (s : State) : (advance s).1 = .ok s.rest.head? := by
  have h := s.tokens.fst_next
  unfold advance State.rest
  split <;> simp_all

theorem fst_accept (kinds : List Kind) (s : State) :
    (accept kinds s).1 = .ok (s.rest.head?.filter (kinds.contains ·.kind)) := by
  have h := s.tokens.fst_nextIf (kinds.contains ·.kind)
  unfold accept State.rest
  split <;> simp_all

theorem rest_accept (kinds : List Kind) (s : State) :
    (accept kinds s).2.rest =
      s.rest.drop (s.rest.head?.filter (kinds.contains ·.kind)).toList.length := by
  have h := s.tokens.rest_nextIf (kinds.contains ·.kind)
  rw [Cursor.fst_nextIf] at h
  unfold accept State.rest
  split <;> rename_i next <;> rw [next] at h <;> exact h

def expect (kind : Kind) (objection : Objection) : Rule Token := do
  match ← accept [kind] with
  | some t => pure t
  | none => refuse (← peek) objection

def refuseOperand : Rule Unit := do
  match ← peek with
  | some t => if t.kind.startsOperand then refuse (some t) .unexpectedExpression else pure ()
  | none => pure ()

end Reckoner.Grammar

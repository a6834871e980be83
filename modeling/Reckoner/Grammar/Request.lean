import Reckoner.Grammar.Reading

namespace Reckoner.Grammar

inductive Request where
  | readAll
  | read (level : Level)
  | peek
  | advance
  | accept (kinds : List Kind)
  | expect (kind : Kind) (message : String)
  | refuseOperand

inductive Answer where
  | tree (e : Expr)
  | token (t : Option Token)
  | done
  | exhausted
  | fault (f : Fault)

def answered {α : Type} (f : α → Answer) : Except Fault α × State → Answer × State
  | (.ok a, s) => (f a, s)
  | (.error e, s) => (.fault e, s)

/-- The answer to a request, each with a budget of its own. -/
def State.answer (s : State) : Request → Answer × State
  | .readAll => answered .tree (Grammar.readAll depthBudget s)
  | .read level => answered .tree (Grammar.read depthBudget level s)
  | .peek => answered .token (Grammar.peek s)
  | .advance => answered (fun t => if t.isSome then .token t else .exhausted) (Grammar.advance s)
  | .accept kinds => answered .token (Grammar.accept kinds s)
  | .expect kind message => answered (.token ∘ some) (Grammar.expect kind (.other message) s)
  | .refuseOperand => answered (fun _ => .done) (Grammar.refuseOperand s)

def State.answers (s : State) : List Request → List (Answer × State)
  | [] => []
  | r :: rs => s.answer r :: answers (s.answer r).2 rs

end Reckoner.Grammar

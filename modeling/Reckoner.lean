import Reckoner.Console.Inspector
import Reckoner.Console.Invocation
import Reckoner.Grammar.Request
import Reckoner.Main
import Reckoner.Proofs.Grammar.Completeness
import Reckoner.Proofs.Run.Outcome
import Reckoner.Run.Session
import Reckoner.Proofs.Expr.Foresight
import Reckoner.Proofs.Expr.Machine
import Reckoner.Proofs.Expr.Rendering
import Reckoner.Proofs.Run.Stages
import Reckoner.Proofs.Run.Journal
import Reckoner.Proofs.Grammar.Objections
import Reckoner.Proofs.Expr.Displacement
import Reckoner.Proofs.Run.Composition
import Reckoner.Proofs.Grammar.Locality
import Reckoner.Proofs.Run.Blame
import Reckoner.Proofs.Run.Account
import Reckoner.Proofs.Console.Inspector
import Reckoner.Proofs.Console.Agreement
import Reckoner.Proofs.Source.Lines
import Reckoner.Proofs.Run.Sharing
import Reckoner.Proofs.Source.Writing
import Reckoner.Proofs.Grammar.Relabelling
import Reckoner.Proofs.Run.Readability
import Reckoner.Proofs.Run.Readback
import Reckoner.Proofs.Cursor
import Reckoner.Proofs.Grammar.Lookahead
import Reckoner.Proofs.Grammar.Requests
import Reckoner.Proofs.Expr.Levels
import Reckoner.Proofs.Grammar.Openings
import Reckoner.Proofs.Grammar.Unlimited
import Reckoner.Proofs.Depth
import Reckoner.Proofs.Console.Tokens
import Reckoner.Proofs.Value.Equality

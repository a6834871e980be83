import Reckoner.Run.Journal
import Reckoner.Text.Blank
import Reckoner.Text.Case

namespace Reckoner

structure Settings where
  failFast : Bool
  level : String
deriving DecidableEq

namespace Settings

def failFastVariable : String := "SUMIRE_FAIL_FAST"

def levelVariable : String := "SUMIRE_LOG_LEVEL"

def affirmations : List String := ["1", "true", "yes", "on"]

/-- The settings in an environment. The name of the level is not checked here. -/
def ofEnvironment (env : String → Option String) : Settings where
  failFast := affirmations.contains (Text.lower (Text.trim ((env failFastVariable).getD "")))
  level := Text.upper ((env levelVariable).getD "WARNING")

end Settings

def Outlet.configure (o : Outlet) (name : String) : Except ThresholdFault Outlet :=
  match threshold? (Text.upper name) with
  | .ok n => .ok { o with threshold := n }
  | .error fault => .error fault

end Reckoner

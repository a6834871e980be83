import Reckoner.Console.Basic
import Reckoner.Text.Colour

namespace Reckoner

/-- The program's own library: what a stream gets that is no terminal. -/
instance Echo.piped : Echo where
  strip s := String.ofList (Text.uncoloured s.toList)
  strip_plain h := by rw [Text.uncoloured_of_not_mem h, String.ofList_toList]

end Reckoner

namespace Reckoner

/-- The levels that one walk over an expression, or one reading of it, may open inside each other. -/
def depthBudget : Nat := 980

end Reckoner

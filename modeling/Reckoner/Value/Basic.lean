import Reckoner.Number.Text

namespace Reckoner

inductive Value where
  | number (x : Float)
  | string (s : String)
  | bool (b : Bool)
  | nil
deriving DecidableEq

inductive ValueKind where
  | number | string | bool | nil
deriving DecidableEq

def ValueKind.name : ValueKind → String
  | number => "NUMBER"
  | string => "STRING"
  | bool => "BOOL"
  | nil => "NIL"

namespace Value

def kind : Value → ValueKind
  | number _ => .number
  | string _ => .string
  | bool _ => .bool
  | nil => .nil

/-- Equality inside the language: values of different kinds differ, and numbers compare as numbers,
so that zero equals minus zero and a NaN nothing. -/
def same : Value → Value → Bool
  | number x, number y => x == y
  | string s, string t => s == t
  | bool a, bool b => a == b
  | nil, nil => true
  | _, _ => false

def text : Value → String
  | number x => Number.plain x
  | string s => s
  | bool b => if b then "true" else "false"
  | nil => "nil"

end Value

end Reckoner

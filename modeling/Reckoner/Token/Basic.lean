import Reckoner.Token.Kind
import Reckoner.Text.Quoted
import Reckoner.Number.Text

namespace Reckoner

inductive Payload where
  | number (x : Float)
  | text (s : String)
deriving DecidableEq

structure Token where
  kind : Kind
  lexeme : String
  line : Int
  payload : Option Payload
deriving DecidableEq

def Payload.quoted : Payload → String
  | .number x => Number.pointed x
  | .text s => Text.Quoted.quote s

def Payload.typeName : Option Payload → String
  | some (.number _) => "float"
  | some (.text _) => "str"
  | none => "NoneType"

namespace Token

def endOfInput (line : Int) : Token := ⟨.endOfInput, "", line, none⟩

def text (t : Token) : String :=
  let payload := match t.payload with
    | some p => p.quoted ++ " "
    | none => ""
  t.kind.name ++ " " ++ Text.Quoted.quote t.lexeme ++ " " ++ payload ++ "line=" ++
    Number.integer t.line

end Token

end Reckoner

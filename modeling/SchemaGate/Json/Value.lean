import SchemaGate.Text.NameMap
import SchemaGate.Number.Shortest

/-!
# JSON values

An object that has been read keeps its members sorted by name, one member a name, so two values that
were read are equal when their texts are.  An object made to be written keeps the order it is given.
-/

namespace SchemaGate

/-- Whole numbers between `-2 ^ 63` and `2 ^ 64 - 1` are kept exactly, all others as floating point. -/
inductive Number where
  | integer (value : Int)
  | float (value : Float)
deriving DecidableEq, BEq, Repr, Inhabited

inductive Json where
  | null
  | bool (value : Bool)
  | number (value : Number)
  | string (value : String)
  | array (items : List Json)
  | object (members : List (String × Json))
deriving BEq, Repr, Inhabited

namespace Json

def member? (members : List (String × Json)) (name : String) : Option Json :=
  members.lookup name

def get? (name : String) : Json → Option Json
  | .object members => member? members name
  | _ => none

end Json

end SchemaGate

import SchemaGate.Json.Value

/-!
# JSON text

Compact text without blanks.  A floating-point number has the fewest digits that read back, is written
positionally while its leading digit stands between `10 ^ -5` and `10 ^ 15`, and always shows a point
or a power of ten.
-/

namespace SchemaGate

def escapeChar (c : Char) : String :=
  match c with
  | '"' => "\\\""
  | '\\' => "\\\\"
  | '\x08' => "\\b"
  | '\x0c' => "\\f"
  | '\n' => "\\n"
  | '\r' => "\\r"
  | '\t' => "\\t"
  | c =>
    if c.toNat < 0x20 then
      "\\u00" ++ String.ofList [Nat.digitChar (c.toNat / 16), Nat.digitChar (c.toNat % 16)]
    else c.toString

def quoteJson (text : String) : String :=
  "\"" ++ String.join (text.toList.map escapeChar) ++ "\""

namespace Number

def floatText (f : Float) : String :=
  let d := Decimal.ofFloat f
  let k := d.magnitude
  let sign := if isSigned f then "-" else ""
  sign ++ (if -5 ≤ k ∧ k ≤ 15 then d.positional ".0" else d.scientific)

def text : Number → String
  | .integer n => toString n
  | .float f => floatText f

/-- Positional notation whatever the magnitude, and no point on a whole number. -/
def plainText (f : Float) : String :=
  (if isSigned f then "-" else "") ++ (Decimal.ofFloat f).positional ""

end Number

namespace Json

mutual

def print : Json → String
  | .null => "null"
  | .bool true => "true"
  | .bool false => "false"
  | .number n => n.text
  | .string s => quoteJson s
  | .array items => "[" ++ printItems items ++ "]"
  | .object members => "\x7b" ++ printMembers members ++ "\x7d"

def printItems : List Json → String
  | [] => ""
  | [item] => print item
  | item :: rest => print item ++ "," ++ printItems rest

def printMembers : List (String × Json) → String
  | [] => ""
  | [(name, value)] => quoteJson name ++ ":" ++ print value
  | (name, value) :: rest => quoteJson name ++ ":" ++ print value ++ "," ++ printMembers rest

end

end Json

end SchemaGate

import SchemaGate.Text.Printable

/-!
# Quoted text

How a text is shown inside a message: in double quotes, on one line, with every character that cannot
be seen written as its code point.
-/

namespace SchemaGate.Quoted

def hexDigits (n : Nat) : String :=
  String.ofList (Nat.toDigits 16 n)

def codePoint (c : Char) : String :=
  "\\u\x7b" ++ hexDigits c.toNat ++ "\x7d"

def escapeChar (c : Char) : String :=
  match c with
  | '"' => "\\\""
  | '\\' => "\\\\"
  | '\t' => "\\t"
  | '\n' => "\\n"
  | '\r' => "\\r"
  | '\x00' => "\\0"
  | c => if Printable.isJoining c || Printable.isHidden c then codePoint c else c.toString

def quote (text : String) : String :=
  "\"" ++ String.join (text.toList.map escapeChar) ++ "\""

end SchemaGate.Quoted

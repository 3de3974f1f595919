import SchemaGate.Text.Utf8
import SchemaGate.Text.Quoted
import SchemaGate.Json.Print

/-!
# Faults in JSON text

What can be wrong with a text, and where.  A fault in the syntax has a place at once.  A fault in what
the text describes (a value of the wrong kind, a missing member) is raised while some of the text is
unread, and gets its place when the bracket around it has been closed.
-/

namespace SchemaGate

/-- A value as it is named when it is not of the kind expected. -/
inductive Unexpected where
  | null
  | bool (value : Bool)
  | number (value : Number)
  | string (text : String)
  | list
  | object
deriving DecidableEq, Repr

def Unexpected.describe : Unexpected → String
  | .null => "null"
  | .bool value => "boolean " ++ "`" ++ (if value then "true" else "false") ++ "`"
  | .number (.integer n) => "integer " ++ "`" ++ toString n ++ "`"
  | .number (.float f) => "floating point " ++ "`" ++ Number.floatText f ++ "`"
  | .string text => "string " ++ Quoted.quote text
  | .list => "sequence"
  | .object => "map"

inductive Cause where
  | endOfValue
  | endOfList
  | endOfObject
  | endOfString
  | expectedColon
  | expectedListComma
  | expectedObjectComma
  | expectedIdent
  | expectedValue
  | invalidEscape
  | invalidNumber
  | numberOutOfRange
  | invalidCodePoint
  | controlCharacter
  | keyMustBeString
  | loneSurrogate
  | trailingComma
  | trailingCharacters
  | endOfEscape
  | tooDeep
  | wrongKind (found : Unexpected) (expected : String)
  | wrongValue (found : Unexpected) (expected : String)
  | wrongLength (found : Nat) (expected : String)
  | unknownVariant (found : String) (expected : List String)
  | missingField (name : String)
  | duplicateField (name : String)
deriving DecidableEq, Repr

namespace Cause

def code (text : String) : String :=
  "`" ++ text ++ "`"

/-- One name, two joined by "or", or a list introduced by "one of". -/
def oneOf : List String → String
  | [] => "there are no variants"
  | [a] => "expected " ++ code a
  | [a, b] => "expected " ++ code a ++ " or " ++ code b
  | names => "expected one of " ++ String.intercalate ", " (names.map code)

def message : Cause → String
  | .endOfValue => "EOF while parsing a value"
  | .endOfList => "EOF while parsing a list"
  | .endOfObject => "EOF while parsing an object"
  | .endOfString => "EOF while parsing a string"
  | .expectedColon => "expected " ++ code ":"
  | .expectedListComma => "expected " ++ code "," ++ " or " ++ code "]"
  | .expectedObjectComma => "expected " ++ code "," ++ " or " ++ code "\x7d"
  | .expectedIdent => "expected ident"
  | .expectedValue => "expected value"
  | .invalidEscape => "invalid escape"
  | .invalidNumber => "invalid number"
  | .numberOutOfRange => "number out of range"
  | .invalidCodePoint => "invalid unicode code point"
  | .controlCharacter => "control character (\\u0000-\\u001F) found while parsing a string"
  | .keyMustBeString => "key must be a string"
  | .loneSurrogate => "lone leading surrogate in hex escape"
  | .trailingComma => "trailing comma"
  | .trailingCharacters => "trailing characters"
  | .endOfEscape => "unexpected end of hex escape"
  | .tooDeep => "recursion limit exceeded"
  | .wrongKind found expected => "invalid type: " ++ found.describe ++ ", expected " ++ expected
  | .wrongValue found expected => "invalid value: " ++ found.describe ++ ", expected " ++ expected
  | .wrongLength found expected =>
    "invalid length " ++ toString found ++ ", expected " ++ expected
  | .unknownVariant found expected => "unknown variant " ++ code found ++ ", " ++ oneOf expected
  | .missingField name => "missing field " ++ code name
  | .duplicateField name => "duplicate field " ++ code name

end Cause

/-- Where a fault was found: after all but `unread` bytes, or not placed yet, with `rest` unread. -/
inductive Site where
  | placed (unread : Nat)
  | loose (rest : Bytes)
deriving DecidableEq, Repr

structure Fault where
  cause : Cause
  site : Site
deriving DecidableEq, Repr

namespace Fault

def here (cause : Cause) (rest : Bytes) : Fault :=
  ⟨cause, .placed rest.length⟩

/-- A fault of the next byte, which stays unread; at the end of the text, of the end. -/
def next (cause : Cause) (rest : Bytes) : Fault :=
  ⟨cause, .placed (rest.length - 1)⟩

def loose (cause : Cause) (rest : Bytes) : Fault :=
  ⟨cause, .loose rest⟩

/-- Places a loose fault; `settle` tells what is unread once the enclosing bracket is closed. -/
def place (fault : Fault) (settle : Bytes → Bytes) : Fault :=
  match fault.site with
  | .placed _ => fault
  | .loose rest => here fault.cause (settle rest)

end Fault

/-- A line, counted from one, and how many bytes of it had been read. -/
structure Position where
  line : Nat
  column : Nat
deriving DecidableEq, Repr

def Position.start : Position := ⟨1, 0⟩

def Position.advance (p : Position) (byte : UInt8) : Position :=
  if byte = 10 then ⟨p.line + 1, 0⟩ else ⟨p.line, p.column + 1⟩

def Position.after (bytes : Bytes) : Position :=
  bytes.foldl Position.advance Position.start

/-- What is wrong with a text as a whole. -/
structure JsonError where
  cause : Cause
  position : Option Position
deriving DecidableEq, Repr

namespace JsonError

def ofFault (text : Bytes) (fault : Fault) : JsonError :=
  match fault.site with
  | .placed unread => ⟨fault.cause, some (Position.after (text.take (text.length - unread)))⟩
  | .loose _ => ⟨fault.cause, none⟩

def message (e : JsonError) : String :=
  match e.position with
  | some p => e.cause.message ++ " at line " ++ toString p.line ++ " column " ++ toString p.column
  | none => e.cause.message

end JsonError

end SchemaGate

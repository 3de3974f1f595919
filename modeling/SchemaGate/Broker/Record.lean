import SchemaGate.Text.Utf8

/-!
# Records

A record of a partition: its offset, its key and value, which may be null, and its headers in order.
Null is told apart from empty, and a header's name may occur more than once.
-/

namespace SchemaGate.Broker

structure Header where
  name : String
  value : Option Bytes
deriving DecidableEq, Repr

structure Record where
  offset : Int64
  key : Option Bytes
  value : Option Bytes
  headers : List Header
deriving DecidableEq, Repr

/-- The records of a partition in their encoding, which need not be readable. -/
structure RecordSet where
  bytes : Bytes
deriving DecidableEq, Repr

namespace RecordSet

def empty : RecordSet := ⟨[]⟩

def size (set : RecordSet) : Nat :=
  set.bytes.length

def isEmpty (set : RecordSet) : Bool :=
  set.bytes.isEmpty

end RecordSet

/-- The parts of a record that have a length. -/
inductive Field where
  | headerCount
  | recordKey
  | recordValue
  | headerKey
  | headerValue
deriving DecidableEq, Repr

def Field.name : Field → String
  | .headerCount => "header count"
  | .recordKey => "record key"
  | .recordValue => "record value"
  | .headerKey => "header key"
  | .headerValue => "header value"

/-- Why records cannot be read or written. -/
inductive WireError where
  | truncated (needed available : Nat)
  | invalidLength (field : Field) (length : Int)
  | fieldTooLarge (field : Field) (size max : Nat)
  | invalidHeaderKey
deriving DecidableEq, Repr

def WireError.message : WireError → String
  | .truncated needed available =>
    "truncated record set (needed " ++ toString needed ++ " bytes, " ++ toString available ++
      " available)"
  | .invalidLength field length => "invalid length " ++ toString length ++ " for " ++ field.name
  | .fieldTooLarge field size max =>
    field.name ++ " too large (" ++ toString size ++ " bytes, max " ++ toString max ++ ")"
  | .invalidHeaderKey => "record header key is not valid UTF-8"

def maxShort : Nat := 65535

/-- The most that fits into a length of four bytes, one of which values is null. -/
def maxLength : Nat := 2147483647

end SchemaGate.Broker

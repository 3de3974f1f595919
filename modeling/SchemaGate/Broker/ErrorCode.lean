/-!
# Broker error codes
-/

namespace SchemaGate.Broker

structure ErrorCode where
  code : Int16
deriving DecidableEq, Repr

namespace ErrorCode

def none : ErrorCode := ⟨0⟩

def corruptMessage : ErrorCode := ⟨2⟩

def invalidRecord : ErrorCode := ⟨87⟩

def isError (e : ErrorCode) : Bool :=
  e ≠ none

def name? (e : ErrorCode) : Option String :=
  if e = none then some "NONE"
  else if e = corruptMessage then some "CORRUPT_MESSAGE"
  else if e = invalidRecord then some "INVALID_RECORD"
  else Option.none

def describe (e : ErrorCode) : String :=
  (e.name?.getD "UNKNOWN") ++ " (" ++ toString e.code.toInt ++ ")"

end ErrorCode

end SchemaGate.Broker

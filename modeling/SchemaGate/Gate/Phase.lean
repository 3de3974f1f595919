/-!
# Phases

The phases of a gateway that answer with a status, and how each names what it refuses.
-/

namespace SchemaGate

inductive Direction where
  | request
  | response
deriving DecidableEq, Repr

/-- Why a payload is refused: something could not be read or found, or it breaks the schema. -/
inductive FailureKind where
  | format
  | payload
deriving DecidableEq, Repr

def FailureKind.name : FailureKind → String
  | .format => "format"
  | .payload => "payload"

inductive Phase where
  | request
  | response
  | messageRequest
  | messageResponse
deriving DecidableEq, Repr

namespace Phase

def ofBody : Direction → Phase
  | .request => .request
  | .response => .response

def ofMessage : Direction → Phase
  | .request => .messageRequest
  | .response => .messageResponse

def name : Phase → String
  | .request => "request"
  | .response => "response"
  | .messageRequest => "message_request"
  | .messageResponse => "message_response"

def status : Phase → UInt16
  | .response => 500
  | .request | .messageRequest | .messageResponse => 400

def keyPart : Phase → String
  | .request => ""
  | .response => "RESPONSE_"
  | .messageRequest => "MESSAGE_REQUEST_"
  | .messageResponse => "MESSAGE_RESPONSE_"

def key (phase : Phase) (kind : FailureKind) : String :=
  "JSON_INVALID_" ++ phase.keyPart ++
    (match kind with
      | .payload => "PAYLOAD"
      | .format => "FORMAT")

/-- Whether a refused payload may be let through; what clients ask for never is. -/
def allowsStraightRespond (phase : Phase) : Bool :=
  phase ≠ .request

end Phase

end SchemaGate

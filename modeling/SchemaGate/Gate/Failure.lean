import SchemaGate.Json.Shape
import SchemaGate.Gate.Error
import SchemaGate.Gate.Phase

/-!
# Failures

What a host answers with in place of a refused payload, and what is known of the refusal.
-/

namespace SchemaGate

structure Failure where
  statusCode : UInt16
  key : String
  message : String
  contentType : String
deriving DecidableEq, Repr, Inhabited

def applicationJson : String := "application/json"

def textPlain : String := "text/plain"

def defaultMessage (status : UInt16) : String :=
  if status = 400 then "Bad Request" else "Internal Error"

namespace Failure

def ofStatus (status : UInt16) : Failure :=
  ⟨status, "", defaultMessage status, applicationJson⟩

def read : Reader Failure :=
  Shape.record "struct ExecutionFailure"
    [Shape.field "statusCode" true Shape.uint16 fun v f => { f with statusCode := v },
      Shape.field "key" true Shape.string fun v f => { f with key := v },
      Shape.field "message" true Shape.string fun v f => { f with message := v },
      Shape.field "contentType" true Shape.string fun v f => { f with contentType := v }]
    default

def toJson (f : Failure) : Json :=
  .object [("statusCode", .number (.integer f.statusCode.toNat)), ("key", .string f.key),
    ("message", .string f.message), ("contentType", .string f.contentType)]

def parse (text : Bytes) : Except JsonError Failure :=
  Json.whole read text

end Failure

namespace FailureKind

def names : List (String × FailureKind) :=
  [("format", .format), ("payload", .payload)]

def parse (text : Bytes) : Except JsonError FailureKind :=
  Json.whole (Shape.choice names) text

end FailureKind

/-- A refused payload: of what kind, the text that is recorded, and whether no schema was found. -/
structure Refusal where
  kind : FailureKind
  detail : String
  unresolved : Bool := false
deriving DecidableEq, Repr

namespace Refusal

def format (detail : String) : Refusal := ⟨.format, detail, false⟩

def payload (detail : String) : Refusal := ⟨.payload, detail, false⟩

def noSchema (detail : String) : Refusal := ⟨.format, detail, true⟩

end Refusal

/-- The message of a failure, and whether it has been evaluated; an expression without a value leaves
the default. -/
def failureMessage (expression? : Option String) (status : UInt16) (evaluate : Evaluator) :
    Except PolicyError (String × Bool) :=
  match expression? with
  | none => .ok (defaultMessage status, false)
  | some expression =>
    match evaluate expression with
    | .ok (some text) => .ok (text, true)
    | .ok none => .ok (defaultMessage status, false)
    | .error error => .error (.errorMessage error)

/-- The failure of a phase.  In place of a buffered body the default message is sent as plain text. -/
def buildFailure (expression? : Option String) (buffered : Bool) (phase : Phase)
    (kind : FailureKind) (evaluate : Evaluator) : Except PolicyError Failure := do
  let (message, evaluated) ← failureMessage expression? phase.status evaluate
  .ok ⟨phase.status, phase.key kind, message,
    if buffered && !evaluated then textPlain else applicationJson⟩

end SchemaGate

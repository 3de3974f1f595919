import SchemaGate.Json.Fault

/-!
# Schema errors

Why a schema could not be found, read or used, and why a payload could not be judged.
-/

namespace SchemaGate

inductive SchemaError where
  | invalidSchema (error : JsonError)
  | compileFailed (reason : String)
  | invalidPayload (error : JsonError)
  /-- A validator broke down over a schema or a payload.  The one of this gateway never does, so this comes
  only from the registry of a host. -/
  | aborted (reason : String)
  | loadFailed (reason : String)
  | invalidSource (reason : String)
  | resourceNotFound (name : String)
  | nameUnresolved (reason : String)
  | schemaNotFound (name : String)
  | lookupFailed (reason : String)
deriving DecidableEq, Repr

namespace SchemaError

def message : SchemaError → String
  | .invalidSchema error => "schema is not valid JSON: " ++ error.message
  | .compileFailed reason => "failed to compile schema: " ++ reason
  | .invalidPayload error => "payload is not valid JSON: " ++ error.message
  | .aborted reason => "schema validation aborted: " ++ reason
  | .loadFailed reason => "failed to load schema: " ++ reason
  | .invalidSource reason => "invalid schema source: " ++ reason
  | .resourceNotFound name => "unable to resolve schema registry resource: " ++ name
  | .nameUnresolved reason => "unable to resolve schema name: " ++ reason
  | .schemaNotFound name => "unable to resolve schema: " ++ name
  | .lookupFailed reason => "schema registry lookup failed: " ++ reason

/-- Whether no schema could be determined. -/
def isUnresolved : SchemaError → Bool
  | .resourceNotFound _ | .nameUnresolved _ | .schemaNotFound _ | .lookupFailed _ => true
  | _ => false

/-- Whether the configuration is at fault, and not a payload. -/
def isConfiguration : SchemaError → Bool
  | .invalidSource _ | .loadFailed _ => true
  | _ => false

end SchemaError

end SchemaGate

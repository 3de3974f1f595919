import SchemaGate.Schema.Error
import SchemaGate.Template

/-!
# Policy errors

What a phase can end with instead of an outcome.  A refused payload is an outcome; what is left is a
configuration that cannot be run, a message that cannot be evaluated, and cancellation.
-/

namespace SchemaGate

inductive PolicyError where
  | configuration (reason : String)
  | schema (error : SchemaError)
  | json (error : JsonError)
  | errorMessage (error : TemplateError)
  | cancelled
deriving DecidableEq, Repr

namespace PolicyError

def message : PolicyError → String
  | .configuration reason => "invalid policy configuration: " ++ reason
  | .schema error => "invalid schema configuration: " ++ error.message
  | .json error => "policy configuration is not valid JSON: " ++ error.message
  | .errorMessage error => "failed to evaluate error message: " ++ error.message
  | .cancelled => "phase cancelled"

def isConfiguration : PolicyError → Bool
  | .configuration _ | .schema _ | .json _ => true
  | _ => false

end PolicyError

end SchemaGate

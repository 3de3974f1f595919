import SchemaGate.Schema.Directory
import SchemaGate.Broker.Record
import SchemaGate.Gate.Error
import SchemaGate.Command.Invocation

/-!
# Exit codes and errors of commands

A command that cannot do what it is asked to ends with an error, whose code tells scripts where to look
for the cause.
-/

namespace SchemaGate.Command

inductive ExitCode where
  | success
  | failure
  | usage
  | denied
  | refused
  | misuse
  | configuration
  | unexpected
deriving DecidableEq, Repr

/-- Arguments that cannot be read are a fault of `usage`; arguments that can be read but not used are
`misuse`. -/
def ExitCode.number : ExitCode → Nat
  | .success => 0
  | .failure => 1
  | .usage => 2
  | .denied => 50
  | .refused => 60
  | .misuse => 64
  | .configuration => 78
  | .unexpected => 125

inductive CommandError where
  | configUnread (path : String) (fault : FileFault)
  | configInvalid (error : PolicyError)
  | policyInvalid (error : PolicyError)
  | payloadMissing
  | payloadInvalid (error : JsonError)
  | payloadUnread (path : String) (fault : FileFault)
  | attributeInvalid (entry : String)
  | registryUnread (error : SchemaError)
  | unframed (error : Broker.WireError)
  | recordsUnread (error : Broker.WireError)
  | recordMissing
  | phaseFailed (surface : Surface) (error : PolicyError)
deriving DecidableEq, Repr

namespace CommandError

def message : CommandError → String
  | .configUnread path fault => "failed to read " ++ path ++ ": " ++ fault.message
  | .configInvalid error => "invalid configuration: " ++ error.message
  | .policyInvalid error => "invalid policy: " ++ error.message
  | .payloadMissing => "a payload is required: pass --json, --data or --file"
  | .payloadInvalid error => "--json is not valid JSON: " ++ error.message
  | .payloadUnread path fault => "failed reading " ++ path ++ ": " ++ fault.message
  | .attributeInvalid entry => "invalid attribute " ++ Quoted.quote entry ++ ": expected NAME=VALUE"
  | .registryUnread error => "failed to load registry: " ++ error.message
  | .unframed error => "payload cannot be framed as a record: " ++ error.message
  | .recordsUnread error => "failed to read records: " ++ error.message
  | .recordMissing => "record batch is empty"
  | .phaseFailed surface error => surface.name ++ " phase failed: " ++ error.message

def ofFault : FileFault → ExitCode
  | .notFound => .misuse
  | .denied => .denied
  | .notDirectory | .isDirectory | .notText => .unexpected

def ofPolicyError (error : PolicyError) : ExitCode :=
  if error.isConfiguration then .configuration
  else match error with
    | .errorMessage _ => .configuration
    | .cancelled => .failure
    | _ => .unexpected

def ofSchemaError : SchemaError → ExitCode
  | .loadFailed _ | .invalidSource _ | .invalidSchema _ | .compileFailed _ => .configuration
  | _ => .unexpected

def exit : CommandError → ExitCode
  | .configUnread _ fault | .payloadUnread _ fault => ofFault fault
  | .configInvalid error | .policyInvalid error | .phaseFailed _ error => ofPolicyError error
  | .payloadMissing | .payloadInvalid _ | .attributeInvalid _ | .unframed _ => .misuse
  | .registryUnread error => ofSchemaError error
  | .recordsUnread _ | .recordMissing => .unexpected

end CommandError

end SchemaGate.Command

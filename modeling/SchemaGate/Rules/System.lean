import SchemaGate.Rules.Check
import SchemaGate.Rules.Compile
import SchemaGate.Validation.Rules

/-!
# The rules that run

The rules of the drafts, as the engine needs them.
-/

namespace SchemaGate.Rules

instance : RuleSystem where
  Program := Program
  compile document := (compile document).mapError CompileError.message
  findings program value := (program.violations value).map Violation.message

end SchemaGate.Rules

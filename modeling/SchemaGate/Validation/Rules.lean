import SchemaGate.Json.Value

/-!
# Rules of schemas

An engine knows nothing of what the rules in a schema are.  It needs a form that a schema is compiled to,
and what that form finds wrong with a value.
-/

namespace SchemaGate

/-- How documents are compiled to programs, and what a program finds wrong with a value, in order.  Both are
told as texts. -/
class RuleSystem where
  Program : Type
  compile : Json → Except String Program
  findings : Program → Json → List String

end SchemaGate

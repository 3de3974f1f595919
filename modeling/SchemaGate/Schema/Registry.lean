import SchemaGate.Awaited
import SchemaGate.Text.Quoted
import SchemaGate.Schema.Basic

/-!
# Schema registries

A registry that is held in memory knows one schema a subject.  A registry that the host provides is
known by how its look-ups go: they may take any number of polls, may never end, and may cancel the event
they are made for.
-/

namespace SchemaGate

/-- How much may be loaded from a directory: the number of schemas, and the bytes of each. -/
structure LoadLimits where
  schemas : Nat := 256
  bytes : Nat := 262144
deriving DecidableEq, Repr

/-- The schemas by subject. -/
abbrev Registry := NameMap Schema

namespace Registry

def register (registry : Registry) (schema : Schema) : Registry :=
  registry.insert schema.subject schema

end Registry

structure Lookup where
  resource : String
  subject : String
deriving DecidableEq, Repr

/-- How a registry answers for a subject. -/
abbrev RegistryService := String → Awaited (Except SchemaError (Option Schema))

def Registry.service (registry : Registry) : RegistryService := fun subject =>
  .done (.ok (registry.get? subject))

abbrev Resources := NameMap RegistryService

def Resources.describe (resources : Resources) : String :=
  "ResourceMap \x7b registries: [" ++ String.intercalate ", " (resources.names.map Quoted.quote) ++
    "] \x7d"

end SchemaGate

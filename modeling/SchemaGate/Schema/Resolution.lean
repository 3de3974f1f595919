import SchemaGate.Text.Blank
import SchemaGate.Template
import SchemaGate.Schema.Source
import SchemaGate.Schema.Registry

/-!
# Schema resolution

How the schema of an event is found: it is fixed, or it is looked up in a registry under a name that
is computed from the event's attributes.
-/

namespace SchemaGate

/-- A registry by its name, and the expression for the subject to look up there. -/
structure RegistryRoute where
  resource : String
  mapping : String
deriving DecidableEq, Repr

inductive Resolver where
  | fixed (schema : Schema)
  | lookup (route : RegistryRoute)
deriving DecidableEq, Repr

/-- How the schema of an event was sought: the look-up that was made for it, if there was one, and how
that ended. -/
structure Resolution extends Awaited (Except SchemaError Schema) where
  lookup? : Option Lookup := none

/-- No registry is asked. -/
def Resolution.done (result : Except SchemaError Schema) : Resolution where
  toAwaited := .done result

/-- The search goes on once these polls are over, and without them no registry is asked. -/
def Resolution.behind (polls : Polls) (resolution : Resolution) : Resolution where
  pending := polls.pending ++ (resolution.toPolls.after polls.cancels).pending
  cancels := polls.cancels || resolution.cancels
  result? := resolution.result?
  lookup? := if polls.cutOff then none else resolution.lookup?

@[simp] theorem Resolution.behind_nothing (resolution : Resolution) : resolution.behind {} = resolution := by
  obtain ⟨⟨⟨pending, cancels⟩, result?⟩, lookup?⟩ := resolution
  cases pending <;> rfl

namespace RegistryRoute

def ofNames (resource mapping : String) : Except SchemaError RegistryRoute :=
  if Blank resource then .error (.invalidSource "registry resource name is empty")
  else if Blank mapping then .error (.invalidSource "schema mapping expression is empty")
  else .ok ⟨resource, mapping⟩

def subject (route : RegistryRoute) (evaluate : Evaluator) : Except SchemaError String :=
  match evaluate route.mapping with
  | .ok (some name) => .ok name
  | .ok none => .error (.nameUnresolved ("'" ++ route.mapping ++ "' produced no value"))
  | .error error => .error (.nameUnresolved error.message)

/-- What a registry's answer means for the event; whatever goes wrong leaves it without a schema. -/
def settle (subject : String) : Except SchemaError (Option Schema) → Except SchemaError Schema
  | .ok (some schema) => .ok schema
  | .ok none => .error (.schemaNotFound subject)
  | .error error =>
    if error.isUnresolved then .error error else .error (.lookupFailed error.message)

/-- The search once the mapping has been evaluated. -/
def resolve (route : RegistryRoute) (resources : Resources) (evaluate : Evaluator) : Resolution :=
  match resources.get? route.resource with
  | none => .done (.error (.resourceNotFound route.resource))
  | some service =>
    match route.subject evaluate with
    | .error error => .done (.error error)
    | .ok subject =>
      { toAwaited := (service subject).map (settle subject)
        lookup? := some ⟨route.resource, subject⟩ }

/-- The mapping is evaluated for a registry that there is. -/
def seek (route : RegistryRoute) (resources : Resources) (engine : Engine) : Resolution :=
  (route.resolve resources engine.evaluate).behind
    (if (resources.get? route.resource).isSome then engine.polls route.mapping else {})

end RegistryRoute

namespace Resolver

def ofSource : SchemaSource → Except SchemaError Resolver
  | .inline content => do
    let schema ← Schema.static? content
    .ok (.fixed schema)
  | .registry resource mapping => do
    let route ← RegistryRoute.ofNames resource mapping
    .ok (.lookup route)

def resolve (resolver : Resolver) (resources : Resources) (evaluate : Evaluator) : Resolution :=
  match resolver with
  | .fixed schema => .done (.ok schema)
  | .lookup route => route.resolve resources evaluate

/-- The whole search for the schema of an event. -/
def seek (resolver : Resolver) (resources : Resources) (engine : Engine) : Resolution :=
  match resolver with
  | .fixed schema => .done (.ok schema)
  | .lookup route => route.seek resources engine

theorem seek_evaluate (resolver : Resolver) (resources : Resources) (evaluate : Evaluator) :
    resolver.seek resources { evaluate } = resolver.resolve resources evaluate := by
  cases resolver with
  | fixed schema => rfl
  | lookup route => simp only [seek, RegistryRoute.seek, ite_self, Resolution.behind_nothing, resolve]

end Resolver

end SchemaGate

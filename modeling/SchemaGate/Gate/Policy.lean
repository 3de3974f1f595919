import SchemaGate.Schema.Resolution
import SchemaGate.Validation.Engine
import SchemaGate.Gate.Failure
import SchemaGate.Gate.Handling
import SchemaGate.Gate.Message

/-!
# The policy

A policy is made from a configuration once and then judges the payloads of events.  All surfaces judge
through `Policy.check`, so they agree on what is refused, what is recorded and what a cancelled event
does.
-/

namespace SchemaGate

/-- What surrounds an event: registries, and the engines for the event and for a message on top of it, all of
which may take their time. -/
structure Environment where
  resources : Resources
  engine : Engine
  engineFor : Bindings → Engine

/-- A host whose engines never suspend: registries, and the values that expressions have, for the event or
for a message on top of it. -/
structure Host where
  resources : Resources
  evaluate : Evaluator
  evaluateFor : Bindings → Evaluator

namespace Host

/-- The host that fills expressions in from attributes; those of a message hide those of the event. -/
def ofAttributes (resources : Resources) (attributes : Attributes) : Host where
  resources := resources
  evaluate := Attributes.evaluator attributes
  evaluateFor bindings := Attributes.evaluator (attributes.insertAll bindings.entries)

def environment (host : Host) : Environment where
  resources := host.resources
  engine := { evaluate := host.evaluate }
  engineFor bindings := { evaluate := host.evaluateFor bindings }

instance : Coe Host Environment := ⟨environment⟩

end Host

structure Policy where
  resolver : Resolver
  options : ValidationOptions
  messageExpression? : Option String
  straightRespond : Bool
  scope : Direction
  publish? : Option PublishStrategy
  subscribe? : Option SubscribeHandler
deriving DecidableEq, Repr

variable [RuleSystem]

/-- What changes while a policy judges: the schema kept compiled, whether the event is cancelled, the
text recorded last, and what registries have been asked for. -/
structure Session where
  cache? : Option CompiledSchema := none
  cancelled : Bool := false
  recorded? : Option String := none
  lookups : List Lookup := []

namespace Policy

def id : String := "json-validation"

def ofConfiguration (c : Configuration) : Except PolicyError Policy := do
  let source ← c.effectiveSource
  let resolver ← (Resolver.ofSource source).mapError PolicyError.schema
  let subscribe? ← c.onSubscribe?.mapM SubscribeHandler.ofHandling
  .ok {
    resolver
    options := c.options
    messageExpression? := c.messageExpression?
    straightRespond := c.straightRespondMode
    scope := c.scope
    publish? := c.onPublish?.map PublishHandling.strategy
    subscribe? }

/-- Whether a payload is refused, once it is known what was found as its schema. -/
def judge (engine : ValidationEngine) (found : Except SchemaError Schema) (payload : Bytes) :
    Option Refusal × ValidationEngine :=
  match found with
  | .error error => (some (.noSchema error.message), engine)
  | .ok schema =>
    match engine.validate schema payload with
    | (.ok report, engine) =>
      (if report.success then none else some (.payload report.describe), engine)
    | (.error error, engine) => (some (.format error.message), engine)

/-- Judges a payload and reacts to the refusal, if there is one, after recording it and waiting for what the
reaction waits for.  A cancelled event does nothing.  Nothing is waited for any longer when the event is
cancelled; an event that is cancelled by the last poll that it waits for still has its outcome. -/
def check {α : Type} (p : Policy) (env : Environment) (engine : Engine) (payload : Bytes)
    (waits : Option Refusal → Polls) (react : Option Refusal → Except PolicyError α) (s : Session) :
    Except PolicyError α × Session :=
  if s.cancelled then (.error .cancelled, s)
  else
    let resolution := p.resolver.seek env.resources engine
    let lookups := s.lookups ++ resolution.lookup?.toList
    match resolution.raced? with
    | none => (.error .cancelled, { s with cancelled := true, lookups })
    | some found =>
      let (refusal?, validator) := judge ⟨p.options, s.cache?⟩ found payload
      let polls := (waits refusal?).after resolution.cancels
      (if polls.cutOff then .error .cancelled else react refusal?, {
        cache? := validator.cache?
        cancelled := polls.cutOff || polls.cancels
        recorded? := (refusal?.map Refusal.detail).or s.recorded?
        lookups })

/-- The failure to answer with.  A refused payload without one goes through. -/
def failure? (p : Policy) (phase : Phase) (buffered : Bool) (evaluate : Evaluator) :
    Option Refusal → Except PolicyError (Option Failure)
  | none => .ok none
  | some refusal =>
    if p.straightRespond && phase.allowsStraightRespond && !refusal.unresolved then .ok none
    else do
      let failure ← buildFailure p.messageExpression? buffered phase refusal.kind evaluate
      .ok (some failure)

/-- What is waited for until a failure has its message. -/
def wording (p : Policy) (phase : Phase) (engine : Engine) : Option Refusal → Polls
  | none => {}
  | some refusal =>
    if p.straightRespond && phase.allowsStraightRespond && !refusal.unresolved then {}
    else (p.messageExpression?.map engine.polls).getD {}

end Policy

end SchemaGate

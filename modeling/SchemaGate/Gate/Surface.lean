import SchemaGate.Gate.Policy

/-!
# The surfaces of the policy

Where the payloads of an event come from, and what its host does after they have been judged.  Main
statement: `Buffer.bytes_collect`, that a body does not depend on how it was cut into chunks.
-/

namespace SchemaGate

open Broker

inductive BodyOutcome where
  | pass
  | interrupt (failure : Failure)
deriving DecidableEq, Repr

inductive MessageOutcome where
  | forward (message : Message)
  | interrupt (failure : Failure)
deriving DecidableEq, Repr

inductive ContentOutcome where
  | skipped
  | forward (body : Bytes)
  | fail (failure : Failure)
deriving DecidableEq, Repr

inductive PublishOutcome where
  | accept (message : Broker.Message)
  | interrupt (response : ProduceResponse) (kind : FailureKind)
deriving DecidableEq, Repr

inductive SubscribeOutcome where
  | accept (message : Broker.Message)
  | interrupt (kind : FailureKind)
deriving DecidableEq, Repr

/-- A body that arrives in chunks.  One that does not end stalls after its last chunk, and the event is
cancelled. -/
structure BodyStream where
  chunks : List Bytes
  ends : Bool := true
deriving DecidableEq, Repr

/-- The part of a body that has arrived. -/
structure Buffer where
  bytes : Bytes := []
deriving DecidableEq, Repr

namespace Buffer

def push (buffer : Buffer) (chunk : Bytes) : Buffer :=
  ⟨buffer.bytes ++ chunk⟩

def size (buffer : Buffer) : Nat :=
  buffer.bytes.length

def isEmpty (buffer : Buffer) : Bool :=
  buffer.bytes.isEmpty

def collect (chunks : List Bytes) : Buffer :=
  chunks.foldl push {}

theorem bytes_foldl_push (buffer : Buffer) (chunks : List Bytes) :
    (chunks.foldl push buffer).bytes = buffer.bytes ++ chunks.flatten := by
  induction chunks generalizing buffer with
  | nil => rw [List.foldl_nil, List.flatten_nil, List.append_nil]
  | cons chunk chunks ih => rw [List.foldl_cons, ih, push, List.flatten_cons, List.append_assoc]

@[simp] theorem bytes_collect (chunks : List Bytes) : (collect chunks).bytes = chunks.flatten :=
  bytes_foldl_push {} chunks

end Buffer

namespace Policy

variable [RuleSystem]

def onBody (p : Policy) (env : Environment) (direction : Direction) (body : Bytes) (s : Session) :
    Except PolicyError BodyOutcome × Session :=
  p.check env env.engine body (p.wording (.ofBody direction) env.engine)
    (fun refusal? => do
      match ← p.failure? (.ofBody direction) false env.engine.evaluate refusal? with
      | none => .ok .pass
      | some failure => .ok (.interrupt failure)) s

def onMessage (p : Policy) (env : Environment) (direction : Direction) (message : Message)
    (s : Session) : Except PolicyError MessageOutcome × Session :=
  let engine := env.engineFor message.bindings
  p.check env engine message.content (p.wording (.ofMessage direction) engine)
    (fun refusal? => do
      match ← p.failure? (.ofMessage direction) false engine.evaluate refusal? with
      | none => .ok (.forward message)
      | some failure => .ok (.interrupt failure)) s

def onMessages (p : Policy) (env : Environment) (direction : Direction) :
    List Message → Session → List (Except PolicyError MessageOutcome) × Session
  | [], s => ([], s)
  | message :: rest, s =>
    let (outcome, s) := p.onMessage env direction message s
    let (outcomes, s) := p.onMessages env direction rest s
    (outcome :: outcomes, s)

def readsContent (p : Policy) (direction : Direction) (s : Session) : Bool :=
  p.scope = direction && !s.cancelled

/-- Buffers a body and judges it, if the policy covers bodies of that direction. -/
def onContent (p : Policy) (env : Environment) (direction : Direction) (body : BodyStream)
    (s : Session) : Except PolicyError ContentOutcome × Session :=
  if p.scope ≠ direction then (.ok .skipped, s)
  else if body.ends || s.cancelled then
    let bytes := (Buffer.collect body.chunks).bytes
    p.check env env.engine bytes (p.wording (.ofBody direction) env.engine)
      (fun refusal? => do
        match ← p.failure? (.ofBody direction) true env.engine.evaluate refusal? with
        | none => .ok (.forward bytes)
        | some failure => .ok (.fail failure)) s
  else (.error .cancelled, { s with cancelled := true })

def unconfigured (phase : String) : PolicyError :=
  .configuration ("json validation for Kafka is not configured for " ++ phase ++ " phase")

def onPublish (p : Policy) (env : Environment) (request : ProduceRequest) (message : Broker.Message)
    (s : Session) : Except PolicyError PublishOutcome × Session :=
  match p.publish? with
  | none => (.error (unconfigured "onPublish"), s)
  | some strategy =>
    p.check env (env.engineFor message.bindings) message.content (fun _ => {})
      (fun
        | none => .ok (.accept message)
        | some refusal =>
          .ok (.interrupt (strategy.reply request message.coordinates) refusal.kind)) s

/-- Judges a record of the response on its way to the consumer.  The response comes back with the
outcome, rewritten or as it was. -/
def onSubscribe (p : Policy) (env : Environment) (response : FetchResponse) (message : Broker.Message)
    (s : Session) : Except PolicyError SubscribeOutcome × FetchResponse × Session :=
  match p.subscribe? with
  | none => (.error (unconfigured "onSubscribe"), response, s)
  | some handler =>
    let (result, s) := p.check env (env.engineFor message.bindings) message.content (fun _ => {})
      (fun
        | none => .ok (.accept message, response)
        | some refusal =>
          match handler.react response message refusal.detail with
          | .interrupt response => .ok (.interrupt refusal.kind, response)
          | .deliver message => .ok (.accept message, response)) s
    match result with
    | .ok (outcome, response) => (.ok outcome, response, s)
    | .error error => (.error error, response, s)

end Policy

end SchemaGate

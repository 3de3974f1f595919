import SchemaGate.Proofs.Gate.Verdict

/-!
# Surfaces after the search for a schema

Once the schema of a payload has been sought to the end, every surface judges the payload, reacts to the
verdict and leaves the session `Policy.next`.  One equation for each surface says how it reacts.
-/

namespace SchemaGate

open Broker

def PublishStrategy.settle (strategy : PublishStrategy) (request : ProduceRequest)
    (message : Broker.Message) : Option Refusal → PublishOutcome
  | none => .accept message
  | some refusal => .interrupt (strategy.reply request message.coordinates) refusal.kind

/-- The outcome for a judged record on its way to the consumer, and the response afterwards. -/
def SubscribeHandler.settle (handler : SubscribeHandler) (response : FetchResponse)
    (message : Broker.Message) : Option Refusal → SubscribeOutcome × FetchResponse
  | none => (.accept message, response)
  | some refusal =>
    match handler with
    | .invalidatePartition => (.interrupt refusal.kind, invalidate response message)
    | .addRecordHeader name =>
      (.accept (message.putHeader name (Utf8.encode refusal.detail)), response)

theorem bind_outcome {α : Type} (result : Except PolicyError (Option Failure)) (pass : α)
    (interrupt : Failure → α) :
    (do
      match ← result with
      | none => .ok pass
      | some failure => .ok (interrupt failure)) =
      result.map fun failure? => failure?.elim pass interrupt := by
  cases result with
  | error error => rfl
  | ok failure? => cases failure? <;> rfl

namespace Policy

/-- The polls of an event since the search for a schema has ended.  A phase that answers with a status
waits for the wording of its failure, and the other surfaces wait for nothing. -/
def waits (p : Policy) (env : Environment) (engine : Engine) (phase? : Option Phase)
    (refusal? : Option Refusal) : Polls :=
  p.since env engine (phase?.elim {} fun phase => p.wording phase engine refusal?)

variable {p : Policy} {env : Environment} {engine : Engine}

@[simp] theorem cutOff_waits_valid (p : Policy) (env : Environment) (engine : Engine)
    (phase? : Option Phase) : (p.waits env engine phase? none).cutOff = false := by
  cases phase? <;> rfl

theorem pending_wording (prompt : engine.Prompt) (p : Policy) (phase : Phase)
    (refusal? : Option Refusal) : (p.wording phase engine refusal?).pending = [] := by
  cases refusal? with
  | none => rfl
  | some refusal =>
    rw [wording]
    split
    · rfl
    · cases p.messageExpression? with
      | none => rfl
      | some expression => exact prompt expression

theorem pending_waits (prompt : engine.Prompt) (p : Policy) (env : Environment) (phase? : Option Phase)
    (refusal? : Option Refusal) : (p.waits env engine phase? refusal?).pending = [] := by
  refine Polls.pending_after_eq_nil_iff.2 ?_
  cases phase? with
  | none => rfl
  | some phase => exact pending_wording prompt p phase refusal?

theorem cutOff_waits (prompt : engine.Prompt) (p : Policy) (env : Environment) (phase? : Option Phase)
    (refusal? : Option Refusal) : (p.waits env engine phase? refusal?).cutOff = false :=
  Polls.cutOff_of_pending (pending_waits prompt p env phase? refusal?)

theorem waits_evaluate (p : Policy) (env : Environment) (evaluate : Evaluator) (phase? : Option Phase)
    (refusal? : Option Refusal) :
    p.waits env { evaluate } phase? refusal? =
      { cancels := (p.resolver.seek env.resources { evaluate }).cancels } := by
  have worded (phase : Phase) : p.wording phase { evaluate } refusal? = {} := by
    cases refusal? with
    | none => rfl
    | some refusal =>
      rw [wording]
      split
      · rfl
      · cases p.messageExpression? <;> rfl
  cases phase? with
  | none => simp [waits, since, Polls.after]
  | some phase => simp [waits, since, worded, Polls.after]

variable [RuleSystem] {s : Session} {found : Except SchemaError Schema}

/-- The search for the schema of a payload ends with `found`, and the event is not cancelled while the
failure is worded, if there is one. -/
structure Concludes (p : Policy) (env : Environment) (engine : Engine) (phase? : Option Phase)
    (payload : Bytes) (s : Session) (found : Except SchemaError Schema) : Prop
    extends p.Finds env engine s found where
  uncut : (p.waits env engine phase? (verdict p.options found payload)).cutOff = false

theorem onContent_of_unread {direction : Direction} (unread : p.readsContent direction s = false)
    (env : Environment) (body : BodyStream) :
    p.onContent env direction body s =
      (if p.scope = direction then .error .cancelled else .ok .skipped, s) := by
  by_cases active : p.scope = direction
  · have cancelled : s.cancelled = true := by simpa [readsContent, active] using unread
    rw [onContent, if_neg (not_not.2 active), if_pos (by simp [cancelled]),
      check_of_cancelled cancelled, if_pos active]
  · rw [onContent, if_pos active, if_neg active]

theorem Finds.concludes (h : p.Finds env engine s found) (prompt : engine.Prompt)
    (phase? : Option Phase) (payload : Bytes) : p.Concludes env engine phase? payload s found :=
  ⟨h, cutOff_waits prompt p env phase? _⟩

/-- The phases that answer with a status differ in what they let a payload through with and what they
interrupt with. -/
theorem check_phase_of_finds {α : Type} (h : p.Finds env engine s found)
    (payload : Bytes) (phase : Phase) (buffered : Bool) (pass : α) (interrupt : Failure → α) :
    let polls := p.waits env engine (some phase) (verdict p.options found payload)
    p.check env engine payload (p.wording phase engine)
        (fun refusal? => do
          match ← p.failure? phase buffered engine.evaluate refusal? with
          | none => .ok pass
          | some failure => .ok (interrupt failure)) s =
      (if polls.cutOff then .error .cancelled
        else (p.failure? phase buffered engine.evaluate (verdict p.options found payload)).map
          fun failure? => failure?.elim pass interrupt,
        p.next env engine found payload polls s) := by
  rw [check_of_finds h]
  simp only [bind_outcome]
  rfl

theorem onBody_of_finds (direction : Direction) (body : Bytes) (h : p.Finds env env.engine s found) :
    let polls := p.waits env env.engine (some (.ofBody direction)) (verdict p.options found body)
    p.onBody env direction body s =
      (if polls.cutOff then .error .cancelled
        else (p.failure? (.ofBody direction) false env.engine.evaluate
          (verdict p.options found body)).map fun failure? => failure?.elim .pass .interrupt,
        p.next env env.engine found body polls s) :=
  check_phase_of_finds h body (.ofBody direction) false BodyOutcome.pass BodyOutcome.interrupt

theorem onMessage_of_finds (direction : Direction) (message : Message)
    (h : p.Finds env (env.engineFor message.bindings) s found) :
    let engine := env.engineFor message.bindings
    let polls := p.waits env engine (some (.ofMessage direction))
      (verdict p.options found message.content)
    p.onMessage env direction message s =
      (if polls.cutOff then .error .cancelled
        else (p.failure? (.ofMessage direction) false engine.evaluate
          (verdict p.options found message.content)).map
            fun failure? => failure?.elim (.forward message) .interrupt,
        p.next env engine found message.content polls s) :=
  check_phase_of_finds h message.content (.ofMessage direction) false (MessageOutcome.forward message)
    MessageOutcome.interrupt

theorem onContent_of_finds {direction : Direction} {body : BodyStream} (active : p.scope = direction)
    (ends : body.ends = true) (h : p.Finds env env.engine s found) :
    let bytes := (Buffer.collect body.chunks).bytes
    let polls := p.waits env env.engine (some (.ofBody direction)) (verdict p.options found bytes)
    p.onContent env direction body s =
      (if polls.cutOff then .error .cancelled
        else (p.failure? (.ofBody direction) true env.engine.evaluate
          (verdict p.options found bytes)).map fun failure? => failure?.elim (.forward bytes) .fail,
        p.next env env.engine found bytes polls s) := by
  rw [onContent, if_neg (not_not.2 active), if_pos (by simp [ends])]
  exact check_phase_of_finds h _ (.ofBody direction) true (ContentOutcome.forward _) ContentOutcome.fail

theorem onPublish_of_finds {strategy : PublishStrategy} {message : Broker.Message}
    (handled : p.publish? = some strategy)
    (h : p.Finds env (env.engineFor message.bindings) s found) (request : ProduceRequest) :
    let engine := env.engineFor message.bindings
    p.onPublish env request message s =
      (.ok (strategy.settle request message (verdict p.options found message.content)),
        p.next env engine found message.content
          (p.waits env engine none (verdict p.options found message.content)) s) := by
  simp only [onPublish, handled, check_of_finds h]
  cases verdict p.options found message.content <;> rfl

theorem onSubscribe_of_finds {handler : SubscribeHandler} {message : Broker.Message}
    (handled : p.subscribe? = some handler)
    (h : p.Finds env (env.engineFor message.bindings) s found) (response : FetchResponse) :
    let engine := env.engineFor message.bindings
    p.onSubscribe env response message s =
      (.ok (handler.settle response message (verdict p.options found message.content)).1,
        (handler.settle response message (verdict p.options found message.content)).2,
        p.next env engine found message.content
          (p.waits env engine none (verdict p.options found message.content)) s) := by
  simp only [onSubscribe, handled, check_of_finds h]
  cases verdict p.options found message.content with
  | none => rfl
  | some refusal => cases handler <;> rfl

end Policy

end SchemaGate

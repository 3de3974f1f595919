import SchemaGate.Proofs.Broker.Topic
import SchemaGate.Proofs.Gate.Surface

/-!
# Rewriting a fetch response

A fetch response is rewritten only for a call that is interrupted.  Main statement: what each strategy
does with a refused record, and that everything else is left as it was.
-/

namespace SchemaGate

open Broker

/-- The response is the old one with the refused record's partition taken out of use: the first entry for
it, if there is one, is marked as corrupt and holds no records. -/
structure Invalidated (message : Broker.Message) (old new : FetchResponse) : Prop where
  errorCode : new.errorCode = .corruptMessage
  throttle : new.throttle = old.throttle
  sessionId : new.sessionId = old.sessionId
  layout : Topic.layout new.topics = Topic.layout old.topics
  entries :
    ((∀ entry ∈ Topic.entries old.topics, ¬ Topic.IsAt message.topic message.partition entry) ∧
      new.topics = old.topics) ∨
    ∃ before p after,
      Topic.FirstAt message.topic message.partition (Topic.entries old.topics) before p after ∧
      Topic.entries new.topics = before ++
        (message.topic, { p with errorCode := .corruptMessage, records := .empty }) :: after

theorem invalidate_invalidated (response : FetchResponse) (message : Broker.Message) :
    Invalidated message response (SubscribeHandler.invalidate response message) where
  errorCode := rfl
  throttle := rfl
  sessionId := rfl
  layout := by
    rw [SubscribeHandler.invalidate, FetchResponse.updatePartition, Topic.layout_update]
    intro partition
    rfl
  entries := Topic.update_cases message.topic message.partition _ response.topics

theorem exists_headerName_of_ofHandling {handling : SubscribeHandling} {handler : SubscribeHandler}
    (marks : handling.strategy = .addRecordHeader)
    (h : SubscribeHandler.ofHandling handling = .ok handler) :
    ∃ name, handling.headerName? = some name ∧ trim name ≠ "" ∧
      handler = .addRecordHeader (trim name) := by
  simp only [SubscribeHandler.ofHandling, marks] at h
  split at h
  · cases h
  · next nonempty =>
    cases headerName : handling.headerName? with
    | none =>
      rw [headerName] at nonempty
      exact absurd rfl nonempty
    | some name =>
      simp only [headerName, Option.getD_some, String.isEmpty_iff] at nonempty h
      exact ⟨name, rfl, nonempty, (Except.ok.inj h).symm⟩

theorem interrupted_of_settle_ne {handler : SubscribeHandler} {response : FetchResponse}
    {message : Broker.Message} {refusal? : Option Refusal}
    (changed : (handler.settle response message refusal?).2 ≠ response) :
    ∃ kind, (handler.settle response message refusal?).1 = .interrupt kind := by
  cases refusal? with
  | none => exact absurd rfl changed
  | some refusal =>
    cases handler with
    | invalidatePartition => exact ⟨refusal.kind, rfl⟩
    | addRecordHeader name => exact absurd rfl changed

namespace Policy

variable {c : Configuration} {p : Policy} {handling : SubscribeHandling} {env : Environment}
  {message : Broker.Message}

theorem exists_handler_of_builtFrom (built : BuiltFrom c p) (h : c.onSubscribe? = some handling) :
    ∃ handler, SubscribeHandler.ofHandling handling = .ok handler ∧ p.subscribe? = some handler := by
  have made := built.subscribe?
  rw [h] at made
  cases handled : SubscribeHandler.ofHandling handling with
  | error error => simp [handled, Functor.map, Except.map] at made
  | ok handler =>
    simp only [Option.mapM_some, handled] at made
    exact ⟨handler, rfl, (Except.ok.inj made).symm⟩

section Rules

variable [RuleSystem] {s : Session}

theorem interrupted_of_onSubscribe_ne {handler : SubscribeHandler}
    (handled : p.subscribe? = some handler) {response after : FetchResponse}
    {result : Except PolicyError SubscribeOutcome} {next : Session}
    (call : p.onSubscribe env response message s = (result, after, next))
    (changed : after ≠ response) : ∃ kind, result = .ok (.interrupt kind) := by
  rcases p.finds_or_given_up env (env.engineFor message.bindings) s with
    ⟨found, finds⟩ | ⟨last, givenUp⟩
  · cases (onSubscribe_of_finds handled finds response).symm.trans call
    obtain ⟨kind, interrupted⟩ := interrupted_of_settle_ne changed
    exact ⟨kind, congrArg Except.ok interrupted⟩
  · simp only [onSubscribe, handled, givenUp] at call
    cases call
    exact absurd rfl changed

/-- A fetch response is rewritten only for an interrupted call, and then only where the refused record's
partition stands first.  A record that is not refused is accepted as it is, and one that is refused and
delivered has one header more. -/
theorem subscribe_frame (built : ofConfiguration c = .ok p) (configured : c.onSubscribe? = some handling)
    {response after : FetchResponse} {result : Except PolicyError SubscribeOutcome} {next : Session}
    (call : p.onSubscribe env response message s = (result, after, next)) :
    (after ≠ response → ∃ kind, result = .ok (.interrupt kind)) ∧
    ∀ found, p.Finds env (env.engineFor message.bindings) s found →
      (verdict c.options found message.content = none →
        result = .ok (.accept message) ∧ after = response) ∧
      ∀ refusal, verdict c.options found message.content = some refusal →
        (handling.strategy = .invalidatePartition →
          result = .ok (.interrupt refusal.kind) ∧ Invalidated message response after) ∧
        (handling.strategy = .addRecordHeader →
          ∃ name, handling.headerName? = some name ∧ trim name ≠ "" ∧
            result = .ok (.accept { message with
              headers := message.headers ++ [⟨trim name, some (Utf8.encode refusal.detail)⟩] }) ∧
            after = response) := by
  have parts := builtFrom_of_ofConfiguration built
  obtain ⟨handler, made, handled⟩ := exists_handler_of_builtFrom parts configured
  refine ⟨interrupted_of_onSubscribe_ne handled call, fun found finds => ?_⟩
  have settled := onSubscribe_of_finds handled finds response
  rw [parts.options] at settled
  cases settled.symm.trans call
  refine ⟨fun valid => ?_, fun refusal refused => ⟨fun invalidates => ?_, fun marks => ?_⟩⟩
  · rw [valid]
    exact ⟨rfl, rfl⟩
  · simp only [SubscribeHandler.ofHandling, invalidates] at made
    obtain rfl := Except.ok.inj made
    rw [refused]
    exact ⟨rfl, invalidate_invalidated response message⟩
  · obtain ⟨name, set, nonempty, rfl⟩ := exists_headerName_of_ofHandling marks made
    rw [refused]
    exact ⟨name, set, nonempty, rfl, rfl⟩

end Rules

/-- Partition 0 is listed for two topics, and twice for the refused record's own: the first of those is
taken out of use.  Marking the record instead leaves the response alone. -/
theorem subscribe_frame_repeated_partition :
    let config (handling : SubscribeHandling) : Configuration :=
      { source? := some (.registry "schemas" "{topic}")
        handling? := some { onSubscribe? := some handling } }
    let policy (handler : SubscribeHandler) : Policy :=
      { resolver := .lookup ⟨"schemas", "{topic}"⟩, options := {}, messageExpression? := none
        straightRespond := false, scope := .request, publish? := none, subscribe? := some handler }
    let env : Environment := Host.ofAttributes .empty .empty
    let message : Broker.Message := { topic := "b", partition := 0, offset := 3, content := [] }
    let response : FetchResponse :=
      { topics := [⟨"a", [{ index := 0, records := ⟨[1]⟩ }]⟩,
          ⟨"b", [{ index := 1, records := ⟨[2]⟩ }, { index := 0, records := ⟨[3]⟩ }]⟩,
          ⟨"b", [{ index := 0, records := ⟨[4]⟩ }]⟩] }
    let spoiled : FetchResponse :=
      { errorCode := .corruptMessage
        topics := [⟨"a", [{ index := 0, records := ⟨[1]⟩ }]⟩,
          ⟨"b", [{ index := 1, records := ⟨[2]⟩ },
            { index := 0, errorCode := .corruptMessage, records := .empty }]⟩,
          ⟨"b", [{ index := 0, records := ⟨[4]⟩ }]⟩] }
    let marked : Broker.Message :=
      { message with headers := [⟨"X-Invalid", some (Utf8.encode
        "unable to resolve schema registry resource: schemas")⟩] }
    let marking : SubscribeHandling := ⟨.addRecordHeader, some " X-Invalid "⟩
    ofConfiguration (config ⟨.invalidatePartition, none⟩) = .ok (policy .invalidatePartition) ∧
      ofConfiguration (config marking) = .ok (policy (.addRecordHeader "X-Invalid")) ∧
      Invalidated message response spoiled ∧
      (∃ next, (policy .invalidatePartition).onSubscribe env response message {} =
        (.ok (.interrupt .format), spoiled, next)) ∧
      ∃ next, (policy (.addRecordHeader "X-Invalid")).onSubscribe env response message {} =
        (.ok (.accept marked), response, next) := by
  intro config policy env message response spoiled marked marking
  have invalidating : ofConfiguration (config ⟨.invalidatePartition, none⟩) =
      .ok (policy .invalidatePartition) := rfl
  have adding : ofConfiguration (config marking) = .ok (policy (.addRecordHeader "X-Invalid")) := by
    decide
  have finds (handler : SubscribeHandler) : (policy handler).Finds env
      (env.engineFor message.bindings) {} (.error (.resourceNotFound "schemas")) := ⟨rfl, rfl⟩
  have spoils : ∃ next, (policy .invalidatePartition).onSubscribe env response message {} =
      (.ok (.interrupt .format), spoiled, next) := ⟨_, rfl⟩
  obtain ⟨next, spoils⟩ := spoils
  have invalidated := ((subscribe_frame invalidating rfl spoils).2 _ (finds _)).2 _ rfl
  have marks : ∃ result last, (policy (.addRecordHeader "X-Invalid")).onSubscribe env response
      message {} = (result, response, last) := ⟨_, _, rfl⟩
  obtain ⟨result, last, marks⟩ := marks
  obtain ⟨name, set, -, delivered, -⟩ :=
    (((subscribe_frame adding rfl marks).2 _ (finds _)).2 _ rfl).2 rfl
  obtain rfl := Option.some.inj set
  have trimmed : trim " X-Invalid " = "X-Invalid" := by decide
  rw [trimmed] at delivered
  refine ⟨invalidating, adding, (invalidated.1 rfl).2, ⟨next, spoils⟩, last, ?_⟩
  rw [marks, delivered]
  rfl

end Policy

end SchemaGate

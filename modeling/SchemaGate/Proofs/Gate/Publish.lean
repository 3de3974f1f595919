import SchemaGate.Proofs.Broker.Topic
import SchemaGate.Proofs.Gate.Surface

/-!
# Refusing a produce request

A request with a refused record is answered for each of its partitions, in the request's own layout, and
only the record's partition is blamed.  Main statement: what the answer says, and that a publish phase
gives it exactly when the record is refused.
-/

namespace SchemaGate

open Broker

/-- The response refuses every partition of the request; one is told where the refused record is, and the
others that the record is not theirs. -/
structure Mirrors (request : ProduceRequest) (failed : Coordinates) (response : ProduceResponse) :
    Prop where
  throttle : response.throttle = 0
  layout : Topic.layout response.topics = Topic.layout request.topics
  refused : ∀ entry ∈ Topic.entries response.topics,
    entry.2.errorCode = .invalidRecord ∧ entry.2.baseOffset = -1 ∧
      entry.2.errorMessage = some (
        if entry.1 = failed.topic ∧ entry.2.index = failed.partition then
          "Partition contains invalid record(s) at offset: " ++ toString failed.offset.toInt
        else "Another partition contains invalid record(s)")

theorem layout_refuse (request : ProduceRequest) (throttle : Int32) (code : ErrorCode)
    (message : String → Int32 → Option String) :
    Topic.layout (request.refuse throttle code message).topics = Topic.layout request.topics := by
  rw [ProduceRequest.refuse, Topic.layout_mapEntries]
  intro topic partition
  rfl

theorem layout_mapPartitions {f : String → PartitionReply → PartitionReply}
    (keeps : ∀ topic reply, (f topic reply).index = reply.index) (response : ProduceResponse) :
    Topic.layout (response.mapPartitions f).topics = Topic.layout response.topics :=
  Topic.layout_mapEntries keeps response.topics

/-- What the client is told of a partition, after both passes over the response. -/
theorem entries_reply (strategy : PublishStrategy) (request : ProduceRequest)
    (failed : Coordinates) :
    Topic.entries (strategy.reply request failed).topics =
      (Topic.entries request.topics).map fun entry =>
        (entry.1, ⟨entry.2.index, .invalidRecord,
          some (if entry.1 = failed.topic ∧ entry.2.index = failed.partition then
            refusalText failed.offset else siblingText), -1⟩) := by
  cases strategy with
  | failWithInvalidRecord =>
    simp only [PublishStrategy.reply, ProduceResponse.mapPartitions, ProduceRequest.refuse,
      Topic.entries_mapEntries, List.map_map]
    refine List.map_congr_left fun entry _ => ?_
    by_cases own : entry.1 = failed.topic ∧ entry.2.index = failed.partition
    · simp only [Function.comp_apply, own, ne_eq, not_true_eq_false, or_self, and_self, if_true,
        if_false]
    · have other := not_and_or.1 own
      simp only [Function.comp_apply, own, other, ne_eq, if_true, if_false]

theorem reply_mirrors (strategy : PublishStrategy) (request : ProduceRequest)
    (failed : Coordinates) : Mirrors request failed (strategy.reply request failed) where
  throttle := by cases strategy; rfl
  layout := by
    cases strategy with
    | failWithInvalidRecord =>
      refine (layout_mapPartitions (fun topic reply => ?_) _).trans (layout_refuse request _ _ _)
      split <;> rfl
  refused entry member := by
    rw [entries_reply, List.mem_map] at member
    obtain ⟨source, -, h⟩ := member
    rw [← h]
    exact ⟨rfl, rfl, rfl⟩

namespace Policy

/-- A refused record takes the whole request with it, and a record that is not refused is accepted as it
is. -/
theorem publish_refuses_in_layout [RuleSystem] :
    (∀ (strategy : PublishStrategy) (request : ProduceRequest) (failed : Coordinates),
      Mirrors request failed (strategy.reply request failed)) ∧
    ∀ (p : Policy) (strategy : PublishStrategy) (env : Environment) (request : ProduceRequest)
      (message : Broker.Message) (s : Session) (found : Except SchemaError Schema),
      p.publish? = some strategy → p.Finds env (env.engineFor message.bindings) s found →
        (∀ response kind,
          (p.onPublish env request message s).1 = .ok (.interrupt response kind) ↔
            response = strategy.reply request message.coordinates ∧
            ∃ refusal, verdict p.options found message.content = some refusal ∧
              kind = refusal.kind) ∧
        ∀ accepted, (p.onPublish env request message s).1 = .ok (.accept accepted) ↔
          verdict p.options found message.content = none ∧ accepted = message := by
  refine ⟨reply_mirrors, fun p strategy env request message s found h finds => ?_⟩
  rw [onPublish_of_finds h finds]
  cases verdict p.options found message.content with
  | none => simp [PublishStrategy.settle, eq_comm]
  | some refusal => simp [PublishStrategy.settle, eq_comm]

/-- Both topics have a partition 0, and one is listed twice; only the partition of the record's own topic
is blamed for it. -/
theorem publish_refuses_in_layout_same_index :
    let p : Policy :=
      { resolver := .lookup ⟨"schemas", "{topic}"⟩, options := {}, messageExpression? := none
        straightRespond := false, scope := .request, publish? := some .failWithInvalidRecord
        subscribe? := none }
    let env : Environment := Host.ofAttributes .empty .empty
    let request : ProduceRequest :=
      { topics := [⟨"a", [⟨0, .empty⟩]⟩, ⟨"b", []⟩, ⟨"b", [⟨0, .empty⟩, ⟨1, .empty⟩]⟩] }
    let message : Broker.Message := { topic := "b", partition := 0, offset := -7, content := [] }
    let found : Except SchemaError Schema := .error (.resourceNotFound "schemas")
    let sibling := some "Another partition contains invalid record(s)"
    let blamed := some "Partition contains invalid record(s) at offset: -7"
    p.publish? = some .failWithInvalidRecord ∧
      p.Finds env (env.engineFor message.bindings) {} found ∧
      (p.onPublish env request message {}).1 = .ok (.interrupt
        ⟨0, [⟨"a", [⟨0, .invalidRecord, sibling, -1⟩]⟩, ⟨"b", []⟩,
          ⟨"b", [⟨0, .invalidRecord, blamed, -1⟩, ⟨1, .invalidRecord, sibling, -1⟩]⟩]⟩ .format) := by
  intro p env request message found sibling blamed
  have handled : p.publish? = some .failWithInvalidRecord := rfl
  have finds : p.Finds env (env.engineFor message.bindings) {} found := ⟨rfl, rfl⟩
  refine ⟨handled, finds, ?_⟩
  have answer := (publish_refuses_in_layout.2 p _ env request message {} found handled finds).1
  exact (answer _ _).2 ⟨by decide, _, rfl, rfl⟩

end Policy

end SchemaGate

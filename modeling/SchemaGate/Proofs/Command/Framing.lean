import SchemaGate.Command.Check
import SchemaGate.Proofs.Broker.Delivery
import SchemaGate.Proofs.Gate.Publish
import SchemaGate.Proofs.Gate.Subscribe

/-!
# Framed payloads

For the broker's surfaces, a payload travels as the only record of the only partition of a request or a
response.  Main statements: the record is read back as it was framed, whatever its offset and its payload,
and that partition is the only one that is reported.
-/

namespace SchemaGate.Command

open Broker

/-- The message that the framed payload of a check is read back as. -/
def CheckRequest.recordMessage (request : CheckRequest) (payload : Bytes) : Broker.Message where
  topic := request.topic
  partition := request.partition
  offset := request.offset
  content := payload

variable {request : CheckRequest} {payload : Bytes} {set : RecordSet}

theorem singleRecord_eq_ok_iff :
    singleRecord request payload = .ok set ↔
      RecordSet.ofRecords [⟨request.offset, none, some payload, []⟩] = .ok set :=
  mapError_eq_ok_iff

theorem exists_singleRecord_iff (request : CheckRequest) (payload : Bytes) :
    (∃ set, singleRecord request payload = .ok set) ↔ payload.length ≤ maxLength := by
  simp only [singleRecord_eq_ok_iff, RecordSet.exists_ofRecords_iff, List.forall_mem_singleton]
  constructor
  · intro fits
    exact fits.value payload rfl
  · intro short
    have value : NullableFits (some payload) := by
      rintro bytes ⟨⟩
      exact short
    exact ⟨Nat.zero_le maxShort, by simp [NullableFits], value, by simp⟩

theorem exists_fault_of_singleRecord {error : CommandError}
    (h : singleRecord request payload = .error error) : ∃ fault, error = .unframed fault := by
  obtain ⟨fault, -, rfl⟩ := mapError_eq_error_iff.1 h
  exact ⟨fault, rfl⟩

theorem messages_single {α : Type} [Indexed α] {records : α → RecordSet} {p : α}
    {found : List Record} (h : (records p).records = .ok found) (name : String) :
    Topic.messages records [⟨name, [p]⟩] =
      .ok (found.map (Message.ofRecord name (Indexed.index p))) := by
  have each : ∀ entry ∈ Topic.entries [(⟨name, [p]⟩ : Topic α)],
      (records entry.2).records = .ok found := List.forall_mem_singleton.2 h
  rw [Topic.messages_eq_delivered, Topic.delivered_of_each each]
  exact congrArg Except.ok (List.append_nil _)

theorem records_of_framed (framed : singleRecord request payload = .ok set) :
    set.records = .ok [⟨request.offset, none, some payload, []⟩] :=
  RecordSet.records_eq_ok_iff.2 (singleRecord_eq_ok_iff.1 framed)

theorem messages_produceRequest (framed : singleRecord request payload = .ok set) :
    (produceRequest request set).messages = .ok [request.recordMessage payload] :=
  messages_single (records_of_framed framed) request.topic

theorem messages_fetchResponse (framed : singleRecord request payload = .ok set) :
    (fetchResponse request set).messages = .ok [request.recordMessage payload] :=
  @messages_single _ _ FetchedPartition.records _ _ (records_of_framed framed) request.topic

theorem refusedPartitions_reply (strategy : PublishStrategy) (request : CheckRequest)
    (set : RecordSet) (payload : Bytes) :
    refusedPartitions (strategy.reply (produceRequest request set)
        (request.recordMessage payload).coordinates) =
      [⟨request.topic, request.partition, 87, some (refusalText request.offset)⟩] := by
  have entries : Topic.entries (produceRequest request set).topics =
      [(request.topic, ⟨request.partition, set⟩)] := rfl
  rw [refusedPartitions, entries_reply, entries]
  simp [CheckRequest.recordMessage, Broker.Message.coordinates, ErrorCode.invalidRecord]

theorem spoiledPartitions_invalidate (request : CheckRequest) (set : RecordSet) (payload : Bytes) :
    spoiledPartitions (SubscribeHandler.invalidate (fetchResponse request set)
        (request.recordMessage payload)) =
      [⟨request.topic, request.partition, 2, none⟩] := by
  simp [spoiledPartitions, SubscribeHandler.invalidate, FetchResponse.updatePartition, fetchResponse,
    CheckRequest.recordMessage, Topic.update, Topic.update?, updateFirst?, Topic.entries, Indexed.index,
    ErrorCode.corruptMessage]

end SchemaGate.Command

import SchemaGate.Gate.Handling
import SchemaGate.Proofs.Broker.Delivery

/-!
# Partitions out of use

A partition with a refused record can be taken out of use, in the response that brings it.  Main statement:
what a consumer gets then is what all other entries hold, and that is settled by the first time.
-/

namespace SchemaGate

open Broker

/-- The entries of a response but the first for the message's partition. -/
def otherEntries (response : FetchResponse) (message : Broker.Message) :
    List (String × FetchedPartition) :=
  (Topic.entries response.topics).eraseP fun entry =>
    Topic.IsAt message.topic message.partition entry

def isElsewhere (message : Broker.Message) (topic : String) (partition : Int32) : Bool :=
  ¬ (topic = message.topic ∧ partition = message.partition)

theorem eraseP_eq_filter_of_once {α : Type} {p : α → Bool} {list : List α} (h : list.countP p ≤ 1) :
    list.eraseP p = list.filter fun a => !p a := by
  induction list with
  | nil => rfl
  | cons a rest ih =>
    cases first : p a with
    | true =>
      rw [List.countP_cons_of_pos first] at h
      have none : rest.countP p = 0 := by omega
      rw [List.eraseP_cons_of_pos first, List.filter_cons_of_neg (by simp [first]), eq_comm,
        List.filter_eq_self]
      simpa using List.countP_eq_zero.1 none
    | false =>
      have later : ¬ p a = true := by simp [first]
      rw [List.countP_cons_of_neg later] at h
      rw [List.eraseP_cons_of_neg later, List.filter_cons_of_pos (by simp [first]), ih h]

namespace SubscribeHandler

theorem messages_invalidate (response : FetchResponse) (message : Broker.Message) :
    (invalidate response message).messages =
      Topic.delivered FetchedPartition.records (otherEntries response message) := by
  rw [FetchResponse.messages, Topic.messages_eq_delivered, invalidate, FetchResponse.updatePartition,
    Topic.delivered_update, otherEntries]
  intro partition
  exact RecordSet.records_eq_ok_iff.2 rfl

theorem invalidate_invalidate (response : FetchResponse) (message : Broker.Message) :
    invalidate (invalidate response message) message = invalidate response message := by
  simp only [invalidate, FetchResponse.updatePartition]
  rw [Topic.update_update]
  · intro partition
    rfl
  · intro partition
    rfl

end SubscribeHandler

theorem otherEntries_of_once {response : FetchResponse} {message : Broker.Message}
    (once : (Topic.entries response.topics).countP
      (fun entry => Topic.IsAt message.topic message.partition entry) ≤ 1) :
    otherEntries response message = (Topic.entries response.topics).filter fun entry =>
      isElsewhere message entry.1 entry.2.index := by
  rw [otherEntries, eraseP_eq_filter_of_once once]
  refine List.filter_congr fun entry _ => ?_
  exact (decide_not ..).symm

theorem isElsewhere_of_messages {response : FetchResponse} {message : Broker.Message}
    (once : (Topic.entries response.topics).countP
      (fun entry => Topic.IsAt message.topic message.partition entry) ≤ 1)
    {found : List Broker.Message}
    (h : (SubscribeHandler.invalidate response message).messages = .ok found) :
    ∀ m ∈ found, isElsewhere message m.topic m.partition := by
  rw [SubscribeHandler.messages_invalidate] at h
  -- Leaving the partition out of what is left leaves all of it, the messages too.
  have again : Topic.delivered FetchedPartition.records
      ((otherEntries response message).filter fun entry =>
        isElsewhere message entry.1 entry.2.index) =
      .ok (found.filter fun m => isElsewhere message m.topic m.partition) :=
    Topic.delivered_filter (isElsewhere message) h
  rw [otherEntries_of_once once, List.filter_filter] at again
  simp only [Bool.and_self, ← otherEntries_of_once once] at again
  exact List.filter_eq_self.1 (Except.ok.inj (again.symm.trans h))

/-- With its partition withdrawn, a response brings what all other entries hold, if all of them can be read,
and nothing changes when that is done again.  Of a partition that is listed once no record is left, and of
any other every one. -/
theorem withdrawn_partition_leaves_others (response : FetchResponse) (message : Broker.Message)
    (detail : String) :
    ∃ after, SubscribeHandler.invalidatePartition.react response message detail = .interrupt after ∧
      ((∃ found, after.messages = .ok found) ↔
        ∀ entry ∈ otherEntries response message, entry.2.records.Readable) ∧
      (∀ held : String × FetchedPartition → List Record,
        (∀ entry ∈ otherEntries response message, entry.2.records.records = .ok (held entry)) →
          after.messages = .ok ((otherEntries response message).flatMap fun entry =>
            (held entry).map (Message.ofRecord entry.1 entry.2.index))) ∧
      (∀ later, SubscribeHandler.invalidatePartition.react after message later = .interrupt after) ∧
      ((Topic.entries response.topics).countP
          (fun entry => Topic.IsAt message.topic message.partition entry) ≤ 1 →
        otherEntries response message =
            (Topic.entries response.topics).filter (fun entry =>
              isElsewhere message entry.1 entry.2.index) ∧
          (∀ found, after.messages = .ok found →
            ∀ m ∈ found, isElsewhere message m.topic m.partition) ∧
          ∀ all, response.messages = .ok all →
            after.messages = .ok (all.filter fun m => isElsewhere message m.topic m.partition)) := by
  refine ⟨SubscribeHandler.invalidate response message, rfl, ?_, fun held each => ?_, fun later => ?_,
    fun once => ⟨otherEntries_of_once once, fun found h => isElsewhere_of_messages once h,
      fun all h => ?_⟩⟩
  · rw [SubscribeHandler.messages_invalidate]
    exact Topic.exists_delivered_iff _ _
  · rw [SubscribeHandler.messages_invalidate, Topic.delivered_of_each each]
    rfl
  · exact congrArg SubscribeReaction.interrupt
      (SubscribeHandler.invalidate_invalidate response message)
  · rw [SubscribeHandler.messages_invalidate, otherEntries_of_once once]
    exact Topic.delivered_filter (isElsewhere message) h

/-- Partition 0 of the second of two topics is withdrawn, once when it cannot be read itself and once when it
can; the same index of the other topic is not touched. -/
theorem withdrawn_partition_leaves_others_unreadable :
    let set : RecordSet := ⟨[0, 0, 0, 0, 0, 0, 0, 7, 255, 255, 255, 255, 0, 0, 0, 1, 5, 0, 0]⟩
    let response (refused : RecordSet) : FetchResponse :=
      { topics := [⟨"a", [{ index := 0, records := set }]⟩,
          ⟨"b", [{ index := 0, records := refused }, { index := 1, records := set }]⟩] }
    let sent (topic : String) (partition : Int32) : Broker.Message :=
      { topic := topic, partition := partition, offset := 7, content := [5] }
    set.records = .ok [⟨7, none, some [5], []⟩] ∧
      (response ⟨[1]⟩).messages = .error (.truncated 8 1) ∧
      (response set).messages = .ok [sent "a" 0, sent "b" 0, sent "b" 1] ∧
      (∃ after, SubscribeHandler.invalidatePartition.react (response ⟨[1]⟩) (sent "b" 0) "bad" =
          .interrupt after ∧
        after.messages = .ok [sent "a" 0, sent "b" 1] ∧
        (∀ m ∈ [sent "a" 0, sent "b" 1], isElsewhere (sent "b" 0) m.topic m.partition) ∧
        SubscribeHandler.invalidatePartition.react after (sent "b" 0) "worse" = .interrupt after) ∧
      ∃ after, SubscribeHandler.invalidatePartition.react (response set) (sent "b" 0) "bad" =
          .interrupt after ∧
        after.messages = .ok [sent "a" 0, sent "b" 1] := by
  intro set response sent
  let held (_ : String × FetchedPartition) : List Record := [⟨7, none, some [5], []⟩]
  have read : set.records = .ok [⟨7, none, some [5], []⟩] :=
    RecordSet.records_eq_ok_iff.2 (by cbv)
  have fault : (RecordSet.mk [1]).records = .error (.truncated 8 1) := by cbv
  have unread : (response ⟨[1]⟩).messages = .error (.truncated 8 1) :=
    (Topic.delivered_eq_error_iff ..).2 ⟨[("a", { index := 0, records := set })], _, _, rfl,
      List.forall_mem_singleton.2 ⟨_, read⟩, fault⟩
  have all : ∀ entry ∈ Topic.entries (response set).topics,
      entry.2.records.records = .ok (held entry) := by
    simpa [Topic.entries, response, held] using read
  have whole : (response set).messages = .ok [sent "a" 0, sent "b" 0, sent "b" 1] :=
    Topic.delivered_of_each all
  have others (refused : RecordSet) : otherEntries (response refused) (sent "b" 0) =
      [("a", { index := 0, records := set }), ("b", { index := 1, records := set })] := rfl
  have each (refused : RecordSet) : ∀ entry ∈ otherEntries (response refused) (sent "b" 0),
      entry.2.records.records = .ok (held entry) := by
    rw [others]
    simpa [held] using read
  have once (refused : RecordSet) : (Topic.entries (response refused).topics).countP
      (fun entry => Topic.IsAt "b" 0 entry) ≤ 1 := Nat.le_of_eq rfl
  obtain ⟨after, withdrawn, -, rest, again, single⟩ :=
    withdrawn_partition_leaves_others (response ⟨[1]⟩) (sent "b" 0) "bad"
  obtain ⟨other, readable, -, -, -, listed⟩ :=
    withdrawn_partition_leaves_others (response set) (sent "b" 0) "bad"
  have left := rest held (each _)
  exact ⟨read, unread, whole, ⟨after, withdrawn, left, (single (once _)).2.1 _ left, again "worse"⟩,
    other, readable, (listed (once _)).2.2 _ whole⟩

end SchemaGate

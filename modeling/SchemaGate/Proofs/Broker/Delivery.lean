import SchemaGate.Broker.Fetch
import SchemaGate.Broker.Produce
import SchemaGate.Proofs.Broker.Limits
import SchemaGate.Proofs.Broker.RoundTrip
import SchemaGate.Proofs.Broker.Topic

/-!
# The messages of a request or a response

A request and a response are read partition by partition.  Main statement: records that were written come
out as one message each, in the order of the topics, of their partitions and of the records there; and the
first partition that cannot be read leaves nothing but its error.
-/

namespace SchemaGate.Broker

def RecordSet.Readable (set : RecordSet) : Prop :=
  ∃ list, set.records = .ok list

namespace Topic

variable {α : Type} [Indexed α] {records : α → RecordSet} {entry : String × α} {list : List Record}
  {error : WireError}

def entryMessages (entry : String × α) (list : List Record) : List Message :=
  list.map (Message.ofRecord entry.1 (Indexed.index entry.2))

/-- The messages of some entries, in order; one set that cannot be read leaves none. -/
def delivered (records : α → RecordSet) (entries : List (String × α)) :
    Except WireError (List Message) := do
  let lists ← entries.mapM fun entry => do
    let found ← (records entry.2).records
    .ok (entryMessages entry found)
  .ok lists.flatten

theorem messages_eq_delivered (records : α → RecordSet) (topics : List (Topic α)) :
    messages records topics = delivered records (entries topics) := rfl

theorem delivered_cons_of_ok (read : (records entry.2).records = .ok list)
    (rest : List (String × α)) :
    delivered records (entry :: rest) =
      (delivered records rest).map (entryMessages entry list ++ ·) := by
  rw [delivered, List.mapM_cons, read, delivered]
  generalize List.mapM (m := Except WireError) _ rest = lists
  cases lists <;> rfl

theorem delivered_cons_of_error (fault : (records entry.2).records = .error error)
    (rest : List (String × α)) : delivered records (entry :: rest) = .error error := by
  rw [delivered, List.mapM_cons, fault]
  rfl

theorem delivered_append (first second : List (String × α)) :
    delivered records (first ++ second) =
      (delivered records first).bind fun a => (delivered records second).map (a ++ ·) := by
  induction first with
  | nil =>
    rw [List.nil_append]
    cases delivered records second <;> rfl
  | cons entry first ih =>
    rw [List.cons_append]
    cases read : (records entry.2).records with
    | error error =>
      rw [delivered_cons_of_error read, delivered_cons_of_error read]
      rfl
    | ok list =>
      rw [delivered_cons_of_ok read, delivered_cons_of_ok read, ih]
      cases delivered records first with
      | error error => rfl
      | ok a =>
        cases delivered records second with
        | error error => rfl
        | ok b => exact congrArg Except.ok (List.append_assoc ..).symm

theorem delivered_cons_of_empty (read : (records entry.2).records = .ok [])
    (rest : List (String × α)) : delivered records (entry :: rest) = delivered records rest := by
  rw [delivered_cons_of_ok read]
  cases delivered records rest <;> rfl

theorem delivered_of_each {list : List (String × α)} {held : String × α → List Record}
    (each : ∀ entry ∈ list, (records entry.2).records = .ok (held entry)) :
    delivered records list = .ok (list.flatMap fun entry => entryMessages entry (held entry)) := by
  induction list with
  | nil => rfl
  | cons entry rest ih =>
    obtain ⟨first, others⟩ := List.forall_mem_cons.1 each
    rw [delivered_cons_of_ok first, ih others]
    rfl

theorem exists_delivered_iff (records : α → RecordSet) (entries : List (String × α)) :
    (∃ found, delivered records entries = .ok found) ↔
      ∀ entry ∈ entries, (records entry.2).Readable := by
  induction entries with
  | nil => exact iff_of_true ⟨[], rfl⟩ (by simp)
  | cons entry rest ih =>
    rw [List.forall_mem_cons, ← ih, RecordSet.Readable]
    cases read : (records entry.2).records with
    | error error => simp [delivered_cons_of_error read]
    | ok list =>
      rw [delivered_cons_of_ok read]
      cases delivered records rest <;> simp [Except.map]

theorem delivered_of_fault {before after : List (String × α)}
    (earlier : ∀ earlier ∈ before, (records earlier.2).Readable)
    (fault : (records entry.2).records = .error error) :
    delivered records (before ++ entry :: after) = .error error := by
  obtain ⟨found, read⟩ := (exists_delivered_iff records before).2 earlier
  rw [delivered_append, read, delivered_cons_of_error fault]
  rfl

/-- The first entry that cannot be read says why there are no messages. -/
theorem delivered_eq_error_iff (records : α → RecordSet) (entries : List (String × α))
    (error : WireError) :
    delivered records entries = .error error ↔ ∃ before entry after,
      entries = before ++ entry :: after ∧
      (∀ earlier ∈ before, (records earlier.2).Readable) ∧
      (records entry.2).records = .error error := by
  constructor
  · intro h
    rcases forall_or_first (fun entry => (records entry.2).Readable) entries with
      all | ⟨before, entry, after, rfl, earlier, fails⟩
    · obtain ⟨found, read⟩ := (exists_delivered_iff records entries).2 all
      cases h.symm.trans read
    · cases read : (records entry.2).records with
      | error fault =>
        obtain rfl := Except.error.inj ((delivered_of_fault earlier read).symm.trans h)
        exact ⟨before, entry, after, rfl, earlier, read⟩
      | ok list => exact absurd ⟨list, read⟩ fails
  · rintro ⟨before, entry, after, rfl, earlier, fault⟩
    exact delivered_of_fault earlier fault

theorem filter_entryMessages (keeps : String → Int32 → Bool) (entry : String × α)
    (list : List Record) :
    (entryMessages entry list).filter (fun m => keeps m.topic m.partition) =
      if keeps entry.1 (Indexed.index entry.2) then entryMessages entry list else [] := by
  simp only [entryMessages, List.filter_map, Function.comp_def, Message.ofRecord]
  split
  · next kept => simp [kept]
  · next dropped => simp [dropped]

/-- Leaving out the entries of some partitions leaves out their messages and no others. -/
theorem delivered_filter (keeps : String → Int32 → Bool) {entries : List (String × α)}
    {all : List Message} (h : delivered records entries = .ok all) :
    delivered records (entries.filter fun entry => keeps entry.1 (Indexed.index entry.2)) =
      .ok (all.filter fun m => keeps m.topic m.partition) := by
  induction entries generalizing all with
  | nil =>
    obtain rfl : [] = all := Except.ok.inj h
    rfl
  | cons entry rest ih =>
    cases read : (records entry.2).records with
    | error error => cases (delivered_cons_of_error read rest).symm.trans h
    | ok list =>
      rw [delivered_cons_of_ok read] at h
      cases others : delivered records rest with
      | error error => simp [others, Except.map] at h
      | ok found =>
        rw [others] at h
        obtain rfl : entryMessages entry list ++ found = all := Except.ok.inj h
        rw [List.filter_append, filter_entryMessages, List.filter_cons]
        split
        · rw [delivered_cons_of_ok read, ih others]
          rfl
        · exact ih others

/-- Taking the records of a partition away is like leaving out the first entry for it. -/
theorem delivered_update {name : String} {index : Int32} {f : α → α}
    (empties : ∀ a, (records (f a)).records = .ok []) (topics : List (Topic α)) :
    delivered records (entries (update name index f topics)) =
      delivered records ((entries topics).eraseP fun entry => IsAt name index entry) := by
  rcases update_cases name index f topics with
    ⟨none, same⟩ | ⟨before, a, after, firstAt, changed⟩
  · rw [same, List.eraseP_of_forall_not (by simpa using none)]
  · have emptied : (records (name, f a).2).records = .ok [] := empties a
    rw [changed, firstAt.eraseP_eq, delivered_append, delivered_cons_of_empty emptied,
      ← delivered_append]

/-- What comes of reading the partitions of some topics.  Records that were written come out in order, and
a partition that cannot be read leaves none of them.  What comes out for a partition is from its own
entries. -/
structure Delivers (records : α → RecordSet) (topics : List (Topic α))
    (result : Except WireError (List Message)) : Prop where
  written (held : α → List Record)
    (encodes : ∀ t ∈ topics, ∀ p ∈ t.partitions, RecordSet.ofRecords (held p) = .ok (records p)) :
    result = .ok (topics.flatMap fun t => t.partitions.flatMap fun p => (held p).map fun record =>
      { topic := t.name
        partition := Indexed.index p
        offset := record.offset
        key := record.key
        content := record.value.getD []
        headers := record.headers })
  fails : (∃ error, result = .error error) ↔
    ∃ t ∈ topics, ∃ p ∈ t.partitions, ¬ (records p).Readable
  first (error : WireError) : result = .error error ↔ ∃ before entry after,
    entries topics = before ++ entry :: after ∧
    (∀ earlier ∈ before, (records earlier.2).Readable) ∧ (records entry.2).records = .error error
  apart {found : List Message} (read : result = .ok found) (name : String) (index : Int32) :
    delivered records ((entries topics).filter fun entry => IsAt name index entry) =
      .ok (found.filter fun m => m.topic = name ∧ m.partition = index)

theorem messages_delivers (records : α → RecordSet) (topics : List (Topic α)) :
    Delivers records topics (messages records topics) where
  written held encodes := by
    have each : ∀ entry ∈ entries topics, (records entry.2).records = .ok (held entry.2) := by
      intro entry member
      obtain ⟨t, ht, p, hp, rfl⟩ := mem_entries_iff.1 member
      exact RecordSet.records_eq_ok_iff.2 (encodes t ht p hp)
    rw [messages_eq_delivered, delivered_of_each each]
    exact congrArg Except.ok (flatMap_entries (fun name p => entryMessages (name, p) (held p)) topics)
  fails := by
    have readable := exists_delivered_iff records (entries topics)
    rw [messages_eq_delivered]
    constructor
    · rintro ⟨error, h⟩
      obtain ⟨before, entry, after, split, -, fault⟩ := (delivered_eq_error_iff ..).1 h
      obtain ⟨t, ht, p, hp, rfl⟩ := mem_entries_iff.1 (split ▸ List.mem_append_cons_self)
      refine ⟨t, ht, p, hp, ?_⟩
      rintro ⟨list, read⟩
      cases fault.symm.trans read
    · rintro ⟨t, ht, p, hp, fails⟩
      cases h : delivered records (entries topics) with
      | error error => exact ⟨error, rfl⟩
      | ok found =>
        have member : (t.name, p) ∈ entries topics := mem_entries_iff.2 ⟨t, ht, p, hp, rfl⟩
        exact absurd (readable.1 ⟨found, h⟩ _ member) fails
  first := delivered_eq_error_iff records (entries topics)
  apart read name index := delivered_filter (fun topic i => topic = name ∧ i = index) read

end Topic

/-- Requests and responses alike are read in order, without losing, repeating or moving a record. -/
theorem messages_in_order :
    (∀ request : ProduceRequest,
      Topic.Delivers ProducedPartition.records request.topics request.messages) ∧
    ∀ response : FetchResponse,
      Topic.Delivers FetchedPartition.records response.topics response.messages :=
  ⟨fun request => Topic.messages_delivers _ request.topics,
    fun response => Topic.messages_delivers _ response.topics⟩

/-- A request lists topic `a` twice, and partition 0 for both topics and twice for one of them; one of its
sets is empty and another holds a record without a value.  A response has two sets that cannot be read. -/
theorem messages_in_order_repeated_topic :
    let tombstone : Record := ⟨7, some [1], none, [⟨"é", none⟩]⟩
    let plain : Record := ⟨-1, none, some [2], []⟩
    let one : RecordSet := ⟨[0, 0, 0, 0, 0, 0, 0, 7, 0, 0, 0, 1, 1, 255, 255, 255, 255, 0, 1,
      0, 2, 195, 169, 255, 255, 255, 255]⟩
    let two : RecordSet := ⟨one.bytes ++ [255, 255, 255, 255, 255, 255, 255, 255,
      255, 255, 255, 255, 0, 0, 0, 1, 2, 0, 0]⟩
    let request : ProduceRequest :=
      { topics := [⟨"a", [⟨0, one⟩, ⟨0, .empty⟩]⟩, ⟨"b", [⟨0, one⟩]⟩, ⟨"a", [⟨0, two⟩]⟩] }
    let response : FetchResponse :=
      { topics := [⟨"a", [{ index := 0, records := one }, { index := 1, records := ⟨[0, 0]⟩ }]⟩,
          ⟨"b", [{ index := 0, records := ⟨[0]⟩ }]⟩] }
    let sent (topic : String) : Message :=
      { topic := topic, partition := 0, offset := 7, key := some [1], content := []
        headers := [⟨"é", none⟩] }
    RecordSet.ofRecords [tombstone] = .ok one ∧ RecordSet.ofRecords [tombstone, plain] = .ok two ∧
      request.messages = .ok [sent "a", sent "b", sent "a",
        { topic := "a", partition := 0, offset := -1, content := [2] }] ∧
      response.messages = .error (.truncated 8 2) := by
  intro tombstone plain one two request response sent
  have single : RecordSet.ofRecords [tombstone] = .ok one := by cbv
  have double : RecordSet.ofRecords [tombstone, plain] = .ok two := by cbv
  let held (p : ProducedPartition) : List Record :=
    if p.records = one then [tombstone] else if p.records = two then [tombstone, plain] else []
  have encodes : ∀ t ∈ request.topics, ∀ p ∈ t.partitions,
      RecordSet.ofRecords (held p) = .ok p.records := by
    decide
  let earlier : List (String × FetchedPartition) := [("a", { index := 0, records := one })]
  have readable : ∀ entry ∈ earlier, entry.2.records.Readable := by
    simpa [earlier] using ⟨_, RecordSet.records_eq_ok_iff.2 single⟩
  have fault : RecordSet.records ⟨[0, 0]⟩ = .error (.truncated 8 2) := by cbv
  exact ⟨single, double, (messages_in_order.1 request).written held encodes,
    ((messages_in_order.2 response).first _).2 ⟨earlier, _, _, rfl, readable, fault⟩⟩

end SchemaGate.Broker

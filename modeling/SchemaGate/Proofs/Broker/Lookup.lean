import SchemaGate.Broker.Fetch
import SchemaGate.Proofs.Broker.Topic

/-!
# Looking partitions up

A partition of a fetch response is read after one search and changed after another, and both go by the order
of all entries.  Main statement: both come to the same entry, the first for the partition, and a change of it
is seen where that partition is looked up and nowhere else.
-/

namespace SchemaGate.Broker

namespace Topic

variable {α : Type} [Indexed α] {name other : String} {index place : Int32} {f : α → α}
  {topics : List (Topic α)} {list before after : List (String × α)} {a : α}

theorem find?_cons (t : Topic α) (rest : List (Topic α)) :
    find? (t :: rest) name index =
      (if t.name = name then t.partitions.find? fun p => Indexed.index p = index else none).or
        (find? rest name index) := by
  rw [find?]
  by_cases named : t.name = name
  · rw [List.filter_cons_of_pos (by simpa using named), List.flatMap_cons, List.find?_append, if_pos named]
    rfl
  · rw [List.filter_cons_of_neg (by simpa using named), if_neg named, Option.none_or]
    rfl

/-- The topics are searched as if they were one list of entries. -/
theorem find?_eq_find?_entries (topics : List (Topic α)) :
    find? topics name index =
      ((entries topics).find? fun entry => IsAt name index entry).map Prod.snd := by
  induction topics with
  | nil => rfl
  | cons t rest ih =>
    rw [find?_cons, ih, entries_cons, List.find?_append, List.find?_map, Option.map_or]
    by_cases named : t.name = name
    · simp [named, IsAt, Function.comp_def]
    · have none : t.partitions.find? (fun _ => false) = none := List.find?_eq_none.2 (by simp)
      simp [named, none, IsAt, Function.comp_def]

theorem find?_eq_none_iff :
    find? topics name index = none ↔ ∀ entry ∈ entries topics, ¬ IsAt name index entry := by
  simp [find?_eq_find?_entries]

theorem FirstAt.find?_eq (h : FirstAt name index (entries topics) before a after) :
    find? topics name index = some a := by
  have none : before.find? (fun entry => IsAt name index entry) = none :=
    List.find?_eq_none.2 (by simpa using h.first)
  have isAt : IsAt name index (name, a) := ⟨rfl, h.found⟩
  rw [find?_eq_find?_entries, h.split, List.find?_append, none, Option.none_or,
    List.find?_cons_of_pos (by simpa using isAt)]
  rfl

theorem find?_eq_some_iff :
    find? topics name index = some a ↔
      ∃ before after, FirstAt name index (entries topics) before a after := by
  constructor
  · intro found
    rw [find?_eq_find?_entries, Option.map_eq_some_iff] at found
    obtain ⟨⟨topic, p⟩, found, rfl⟩ := found
    obtain ⟨isAt, before, after, split, first⟩ := List.find?_eq_some_iff_append.1 found
    obtain ⟨rfl, same⟩ := of_decide_eq_true isAt
    exact ⟨before, after, split, same, by simpa using first⟩
  · rintro ⟨before, after, firstAt⟩
    exact firstAt.find?_eq

theorem FirstAt.takeWhile_eq (h : FirstAt name index list before a after) :
    list.takeWhile (fun entry => ¬ IsAt name index entry) = before := by
  have isAt : IsAt name index (name, a) := ⟨rfl, h.found⟩
  rw [h.split, List.takeWhile_append_of_pos (by simpa using h.first),
    List.takeWhile_cons_of_neg (by simpa using isAt), List.append_nil]

theorem FirstAt.unique {earlier later : List (String × α)} {b : α}
    (h : FirstAt name index list before a after) (h' : FirstAt name index list earlier b later) :
    before = earlier ∧ a = b ∧ after = later := by
  obtain rfl := h.takeWhile_eq.symm.trans h'.takeWhile_eq
  have same := List.append_cancel_left (h.split.symm.trans h'.split)
  obtain ⟨entry, rest⟩ := List.cons.inj same
  exact ⟨rfl, (Prod.mk.inj entry).2, rest⟩

theorem FirstAt.entries_update (h : FirstAt name index (entries topics) before a after) (f : α → α) :
    entries (update name index f topics) = before ++ (name, f a) :: after := by
  rcases update_cases name index f topics with ⟨none, -⟩ | ⟨earlier, b, later, firstAt, changed⟩
  · have member : (name, a) ∈ entries topics := by simp [h.split]
    exact absurd ⟨rfl, h.found⟩ (none _ member)
  · obtain ⟨rfl, rfl, rfl⟩ := h.unique firstAt
    exact changed

theorem update_of_fixed (fixed : ∀ a, find? topics name index = some a → f a = a) :
    update name index f topics = topics := by
  induction topics with
  | nil => rfl
  | cons t rest ih =>
    simp only [find?_eq_some_iff, entries_cons] at fixed ih
    rw [update]
    cases h : t.update? name index f with
    | none =>
      have absent := not_isAt_of_update?_eq_none h
      have same : update name index f rest = rest := by
        refine ih ?_
        rintro a ⟨before, after, firstAt⟩
        exact fixed a ⟨_, after, firstAt.append_left absent⟩
      rw [same]
    | some changed =>
      obtain ⟨rfl, before, a, after, split, none, found, rfl⟩ := exists_of_update?_eq_some h
      have firstAt : FirstAt t.name index (t.partitions.map (t.name, ·) ++ entries rest)
          (before.map (t.name, ·)) a (after.map (t.name, ·) ++ entries rest) :=
        ⟨by simp [split], found, by simpa [IsAt] using none⟩
      have same := fixed a ⟨_, _, firstAt⟩
      simp only [same, ← split]

theorem update_eq_self_iff :
    update name index f topics = topics ↔ ∀ a, find? topics name index = some a → f a = a := by
  refine ⟨fun same a found => ?_, update_of_fixed⟩
  obtain ⟨before, after, firstAt⟩ := find?_eq_some_iff.1 found
  have changed := firstAt.entries_update f
  rw [same, firstAt.split] at changed
  have entry := (List.cons.inj (List.append_cancel_left changed)).1
  exact (Prod.mk.inj entry).2.symm

theorem find?_update_self (keeps : ∀ a, Indexed.index (f a) = Indexed.index a)
    (topics : List (Topic α)) :
    find? (update name index f topics) name index = (find? topics name index).map f := by
  rcases update_cases name index f topics with ⟨none, same⟩ | ⟨before, a, after, firstAt, changed⟩
  · rw [same, find?_eq_none_iff.2 none, Option.map_none]
  · have still : FirstAt name index (entries (update name index f topics)) before (f a) after :=
      ⟨changed, (keeps a).trans firstAt.found, firstAt.first⟩
    rw [still.find?_eq, firstAt.find?_eq, Option.map_some]

theorem find?_update_of_ne (keeps : ∀ a, Indexed.index (f a) = Indexed.index a)
    (elsewhere : (other, place) ≠ (name, index)) (topics : List (Topic α)) :
    find? (update name index f topics) other place = find? topics other place := by
  rcases update_cases name index f topics with ⟨-, same⟩ | ⟨before, a, after, firstAt, changed⟩
  · rw [same]
  · have apart (b : α) (found : Indexed.index b = index) : ¬ IsAt other place (name, b) :=
      fun isAt => elsewhere (Prod.ext isAt.1.symm (isAt.2.symm.trans found))
    have old := apart a firstAt.found
    have new := apart (f a) ((keeps a).trans firstAt.found)
    rw [find?_eq_find?_entries, find?_eq_find?_entries, changed, firstAt.split, List.find?_append,
      List.find?_append, List.find?_cons_of_neg (by simpa using new),
      List.find?_cons_of_neg (by simpa using old)]

end Topic

namespace FetchResponse

/-- One partition has been changed, where it is looked up, and nothing else. -/
structure ChangedAt (topic : String) (index : Int32) (f : FetchedPartition → FetchedPartition)
    (response changed : FetchResponse) : Prop where
  self : changed.partition? topic index = (response.partition? topic index).map f
  others : ∀ name place, (name, place) ≠ (topic, index) →
    changed.partition? name place = response.partition? name place
  layout : Topic.layout changed.topics = Topic.layout response.topics
  throttle : changed.throttle = response.throttle
  errorCode : changed.errorCode = response.errorCode
  sessionId : changed.sessionId = response.sessionId

theorem updatePartition_eq_self_iff {response : FetchResponse} {topic : String} {index : Int32}
    {f : FetchedPartition → FetchedPartition} :
    response.updatePartition topic index f = response ↔
      ∀ p, response.partition? topic index = some p → f p = p := by
  refine Iff.trans ?_ Topic.update_eq_self_iff
  constructor
  · exact congrArg FetchResponse.topics
  · intro same
    rw [updatePartition, same]

theorem changedAt_updatePartition {f : FetchedPartition → FetchedPartition}
    (keeps : ∀ p, (f p).index = p.index) (response : FetchResponse) (topic : String) (index : Int32) :
    ChangedAt topic index f response (response.updatePartition topic index f) where
  self := Topic.find?_update_self keeps response.topics
  others _ _ elsewhere := Topic.find?_update_of_ne keeps elsewhere response.topics
  layout := Topic.layout_update keeps response.topics
  throttle := rfl
  errorCode := rfl
  sessionId := rfl

/-- A partition is read at the first entry for it, and that entry is the one that is changed: the response
becomes another exactly if an entry is read and does not stay as it is.  A change that keeps the index is seen
where the partition is read and leaves all other partitions, and the layout, as they were.  Without an entry
for the partition nothing is read and nothing changes. -/
theorem changes_what_is_read (response : FetchResponse) (topic : String) (index : Int32) :
    (∀ p, response.partition? topic index = some p ↔
      ∃ before after, Topic.FirstAt topic index (Topic.entries response.topics) before p after) ∧
    (∀ f, response.updatePartition topic index f ≠ response ↔
      ∃ p, response.partition? topic index = some p ∧ f p ≠ p) ∧
    (∀ f before p after,
      Topic.FirstAt topic index (Topic.entries response.topics) before p after →
        Topic.entries (response.updatePartition topic index f).topics =
          before ++ (topic, f p) :: after) ∧
    (∀ f, (∀ p, (f p).index = p.index) →
      ChangedAt topic index f response (response.updatePartition topic index f)) ∧
    ((∀ t ∈ response.topics, t.name ≠ topic) ∨
        (∀ t ∈ response.topics, t.name = topic → ∀ p ∈ t.partitions, p.index ≠ index) →
      response.partition? topic index = none ∧
        ∀ f, response.updatePartition topic index f = response) := by
  refine ⟨fun p => Topic.find?_eq_some_iff, fun f => ?_,
    fun f before p after firstAt => firstAt.entries_update f,
    fun f keeps => changedAt_updatePartition keeps response topic index, fun missing => ?_⟩
  · rw [ne_eq, updatePartition_eq_self_iff]
    push Not
    rfl
  · have absent : response.partition? topic index = none := by
      refine Topic.find?_eq_none_iff.2 fun entry member isAt => ?_
      obtain ⟨t, ht, p, hp, rfl⟩ := Topic.mem_entries_iff.1 member
      rcases missing with unnamed | unlisted
      · exact unnamed t ht isAt.1
      · exact unlisted t ht isAt.1 p hp isAt.2
    refine ⟨absent, fun f => updatePartition_eq_self_iff.2 fun p found => ?_⟩
    cases absent.symm.trans found

/-- The topic is listed twice, and only the second time with the partition, which it has twice then; another
topic has the same index before it. -/
theorem changes_what_is_read_later_topic :
    let response : FetchResponse :=
      { topics := [⟨"a", [{ index := 1, records := ⟨[1]⟩ }]⟩,
          ⟨"b", [{ index := 0, records := ⟨[2]⟩ }]⟩,
          ⟨"b", [{ index := 1, records := ⟨[3]⟩ }, { index := 1, records := ⟨[4]⟩ }]⟩] }
    let f (p : FetchedPartition) : FetchedPartition := { p with records := .empty }
    let changed := response.updatePartition "b" 1 f
    Topic.FirstAt "b" 1 (Topic.entries response.topics)
        [("a", { index := 1, records := ⟨[1]⟩ }), ("b", { index := 0, records := ⟨[2]⟩ })]
        { index := 1, records := ⟨[3]⟩ } [("b", { index := 1, records := ⟨[4]⟩ })] ∧
      response.partition? "b" 1 = some { index := 1, records := ⟨[3]⟩ } ∧
      (∀ p, (f p).index = p.index) ∧
      changed.partition? "b" 1 = some { index := 1, records := .empty } ∧
      changed.partition? "a" 1 = some { index := 1, records := ⟨[1]⟩ } ∧
      Topic.entries changed.topics =
        [("a", { index := 1, records := ⟨[1]⟩ }), ("b", { index := 0, records := ⟨[2]⟩ }),
          ("b", { index := 1, records := .empty }), ("b", { index := 1, records := ⟨[4]⟩ })] ∧
      changed ≠ response ∧
      (∀ t ∈ response.topics, t.name = "b" → ∀ p ∈ t.partitions, p.index ≠ 2) ∧
      response.partition? "b" 2 = none ∧ response.updatePartition "b" 2 f = response := by
  intro response f changed
  have firstAt : Topic.FirstAt "b" 1 (Topic.entries response.topics)
      [("a", { index := 1, records := ⟨[1]⟩ }), ("b", { index := 0, records := ⟨[2]⟩ })]
      { index := 1, records := ⟨[3]⟩ } [("b", { index := 1, records := ⟨[4]⟩ })] :=
    ⟨rfl, rfl, by decide⟩
  have keeps (p : FetchedPartition) : (f p).index = p.index := rfl
  have unlisted : ∀ t ∈ response.topics, t.name = "b" → ∀ p ∈ t.partitions, p.index ≠ 2 := by decide
  obtain ⟨reads, differs, stands, changes, -⟩ := changes_what_is_read response "b" 1
  obtain ⟨-, -, -, -, missing⟩ := changes_what_is_read response "b" 2
  have found := (reads _).2 ⟨_, _, firstAt⟩
  have seen := changes f keeps
  refine ⟨firstAt, found, keeps, ?_, ?_, stands f _ _ _ firstAt, (differs f).2 ⟨_, found, by decide⟩,
    unlisted, (missing (.inr unlisted)).1, (missing (.inr unlisted)).2 f⟩
  · rw [seen.self, found]
    rfl
  · rw [seen.others "a" 1 (by decide)]
    rfl

end FetchResponse

end SchemaGate.Broker

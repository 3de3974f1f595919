import Mathlib
import SchemaGate.Broker.Topic

/-!
# Topics, entry by entry

Requests and responses list partitions by topic.  Seen as one list of entries, changing every partition
maps the list (`entries_mapEntries`), and changing the first with a topic and an index replaces one
entry (`update_cases`); topics, their order and the indexes below them stay as they are.
-/

namespace SchemaGate.Broker

variable {α β : Type}

theorem updateFirst?_eq_none_iff {qualifies : α → Bool} {f : α → α} {list : List α} :
    updateFirst? qualifies f list = none ↔ ∀ a ∈ list, qualifies a = false := by
  induction list with
  | nil => simp [updateFirst?]
  | cons a rest ih =>
    rw [updateFirst?, List.forall_mem_cons]
    by_cases h : qualifies a = true <;> simp [h, ih]

theorem exists_of_updateFirst?_eq_some {qualifies : α → Bool} {f : α → α} {list changed : List α}
    (h : updateFirst? qualifies f list = some changed) :
    ∃ before a after, list = before ++ a :: after ∧ (∀ b ∈ before, qualifies b = false) ∧
      qualifies a = true ∧ changed = before ++ f a :: after := by
  induction list generalizing changed with
  | nil => simp [updateFirst?] at h
  | cons head rest ih =>
    rw [updateFirst?] at h
    split at h
    · next first =>
      obtain rfl := Option.some.inj h
      exact ⟨[], head, rest, rfl, by simp, first, rfl⟩
    · next later =>
      obtain ⟨tail, htail, rfl⟩ := Option.map_eq_some_iff.1 h
      obtain ⟨before, a, after, rfl, none, found, rfl⟩ := ih htail
      exact ⟨head :: before, a, after, rfl, List.forall_mem_cons.2 ⟨by simpa using later, none⟩,
        found, rfl⟩

theorem updateFirst?_of_split {qualifies : α → Bool} {f : α → α} {before after : List α} {a : α}
    (none : ∀ b ∈ before, qualifies b = false) (found : qualifies a = true) :
    updateFirst? qualifies f (before ++ a :: after) = some (before ++ f a :: after) := by
  induction before with
  | nil => simp [updateFirst?, found]
  | cons b before ih =>
    obtain ⟨first, others⟩ := List.forall_mem_cons.1 none
    simp [updateFirst?, first, ih others]

namespace Topic

theorem entries_cons (t : Topic α) (rest : List (Topic α)) :
    entries (t :: rest) = t.partitions.map (t.name, ·) ++ entries rest := by
  rw [entries, List.flatMap_cons]
  rfl

theorem entries_mapEntries (f : String → α → β) (topics : List (Topic α)) :
    entries (mapEntries f topics) = (entries topics).map fun e => (e.1, f e.1 e.2) := by
  simp [entries, mapEntries, List.flatMap_map, List.map_flatMap, Function.comp_def]

theorem flatMap_entries (f : String → α → List β) (topics : List (Topic α)) :
    (entries topics).flatMap (fun entry => f entry.1 entry.2) =
      topics.flatMap fun t => t.partitions.flatMap (f t.name) := by
  simp only [entries, List.flatMap_assoc, List.flatMap_map]

theorem mem_entries_iff {topics : List (Topic α)} {entry : String × α} :
    entry ∈ entries topics ↔ ∃ t ∈ topics, ∃ p ∈ t.partitions, (t.name, p) = entry := by
  simp [entries]

section Layout

variable [Indexed α] [Indexed β]

/-- The topics in order, each with the indexes of its partitions. -/
def layout (topics : List (Topic α)) : List (String × List Int32) :=
  topics.map fun t => (t.name, t.partitions.map Indexed.index)

theorem layout_mapEntries {f : String → α → β}
    (h : ∀ name a, Indexed.index (f name a) = Indexed.index a) (topics : List (Topic α)) :
    layout (mapEntries f topics) = layout topics := by
  simp [layout, mapEntries, Function.comp_def, h]

/-- The entry is for the partition with that topic and index. -/
def IsAt (name : String) (index : Int32) (entry : String × α) : Prop :=
  entry.1 = name ∧ Indexed.index entry.2 = index

/-- The first entry for the partition with that topic and index stands between `before` and `after`. -/
structure FirstAt (name : String) (index : Int32) (entries before : List (String × α)) (a : α)
    (after : List (String × α)) : Prop where
  split : entries = before ++ (name, a) :: after
  found : Indexed.index a = index
  first : ∀ entry ∈ before, ¬ IsAt name index entry

instance (name : String) (index : Int32) :
    DecidablePred (IsAt name index : String × α → Prop) :=
  fun _ => inferInstanceAs (Decidable (_ ∧ _))

theorem FirstAt.append_left {name : String} {index : Int32} {list before after : List (String × α)}
    {a : α} (h : FirstAt name index list before a after) {earlier : List (String × α)}
    (none : ∀ entry ∈ earlier, ¬ IsAt name index entry) :
    FirstAt name index (earlier ++ list) (earlier ++ before) a after where
  split := by rw [h.split, List.append_assoc]
  found := h.found
  first entry member := (List.mem_append.1 member).elim (none entry) (h.first entry)

theorem FirstAt.eraseP_eq {name : String} {index : Int32} {list before after : List (String × α)}
    {a : α} (h : FirstAt name index list before a after) :
    list.eraseP (fun entry => IsAt name index entry) = before ++ after := by
  have isAt : IsAt name index (name, a) := ⟨rfl, h.found⟩
  rw [h.split, List.eraseP_append_right _ (by simpa using h.first),
    List.eraseP_cons_of_pos (by simpa using isAt)]

variable {name : String} {index : Int32} {f : α → α}

theorem not_isAt_of_update?_eq_none {t : Topic α} (h : t.update? name index f = none) :
    ∀ entry ∈ t.partitions.map (t.name, ·), ¬ IsAt name index entry := by
  intro entry member isAt
  obtain ⟨a, ha, rfl⟩ := List.mem_map.1 member
  rw [update?, if_pos isAt.1, Option.map_eq_none_iff] at h
  have other := updateFirst?_eq_none_iff.1 h a ha
  exact of_decide_eq_false other isAt.2

theorem exists_of_update?_eq_some {t changed : Topic α}
    (h : t.update? name index f = some changed) :
    t.name = name ∧ ∃ before a after, t.partitions = before ++ a :: after ∧
      (∀ b ∈ before, Indexed.index b ≠ index) ∧ Indexed.index a = index ∧
      changed = ⟨t.name, before ++ f a :: after⟩ := by
  rw [update?] at h
  split at h
  · next named =>
    obtain ⟨partitions, hpartitions, rfl⟩ := Option.map_eq_some_iff.1 h
    obtain ⟨before, a, after, split, none, found, rfl⟩ := exists_of_updateFirst?_eq_some hpartitions
    exact ⟨named, before, a, after, split, by simpa using none, by simpa using found, rfl⟩
  · cases h

/-- Without an entry for the partition nothing changes; otherwise the first one does, and no other. -/
theorem update_cases (name : String) (index : Int32) (f : α → α) (topics : List (Topic α)) :
    ((∀ entry ∈ entries topics, ¬ IsAt name index entry) ∧ update name index f topics = topics) ∨
      ∃ before a after, FirstAt name index (entries topics) before a after ∧
        entries (update name index f topics) = before ++ (name, f a) :: after := by
  induction topics with
  | nil => exact .inl ⟨by simp [entries], rfl⟩
  | cons t rest ih =>
    rw [update, entries_cons]
    cases h : t.update? name index f with
    | none =>
      have absent := not_isAt_of_update?_eq_none h
      rcases ih with ⟨none, same⟩ | ⟨before, a, after, firstAt, changed⟩
      · refine .inl ⟨fun entry member => ?_, by simp only [same]⟩
        exact (List.mem_append.1 member).elim (absent entry) (none entry)
      · refine .inr ⟨_, a, after, firstAt.append_left absent, ?_⟩
        simp only [entries_cons, changed, List.append_assoc]
    | some changed =>
      obtain ⟨rfl, before, a, after, split, none, found, rfl⟩ := exists_of_update?_eq_some h
      refine .inr ⟨before.map (t.name, ·), a, after.map (t.name, ·) ++ entries rest,
        ⟨by simp [split], found, ?_⟩, by simp [entries_cons]⟩
      intro entry member
      obtain ⟨b, hb, rfl⟩ := List.mem_map.1 member
      exact fun isAt => none b hb isAt.2

theorem update?_of_update? {t changed : Topic α}
    (keeps : ∀ a, Indexed.index (f a) = Indexed.index a) (settles : ∀ a, f (f a) = f a)
    (h : t.update? name index f = some changed) : changed.update? name index f = some changed := by
  obtain ⟨named, before, a, after, -, none, found, rfl⟩ := exists_of_update?_eq_some h
  have again : updateFirst? (fun p => Indexed.index p = index) f (before ++ f a :: after) =
      some (before ++ f (f a) :: after) :=
    updateFirst?_of_split (by simpa using none) (by simpa [keeps] using found)
  rw [update?, if_pos named, again, settles]
  rfl

theorem update_update (keeps : ∀ a, Indexed.index (f a) = Indexed.index a)
    (settles : ∀ a, f (f a) = f a) (topics : List (Topic α)) :
    update name index f (update name index f topics) = update name index f topics := by
  induction topics with
  | nil => rfl
  | cons t rest ih =>
    rw [update]
    cases h : t.update? name index f with
    | none => simp only [update, h, ih]
    | some changed => simp only [update, update?_of_update? keeps settles h]

theorem layout_update (keeps : ∀ a, Indexed.index (f a) = Indexed.index a)
    (topics : List (Topic α)) : layout (update name index f topics) = layout topics := by
  induction topics with
  | nil => rfl
  | cons t rest ih =>
    simp only [layout] at ih
    rw [update]
    cases h : t.update? name index f with
    | none => simp [layout, ih]
    | some changed =>
      obtain ⟨-, before, a, after, split, -, -, rfl⟩ := exists_of_update?_eq_some h
      simp [layout, split, keeps]

end Layout

end Topic

end SchemaGate.Broker

/-!
# Values by name

A map from names to values that lists its entries in the order of the names.  Main statements:
`get?_insert` and `get?_insertAll` say what insertions change, `get?_mapValues` what is found after all
values have been mapped.
-/

namespace SchemaGate

/-- Puts a value at its place in a sorted list; a value of the same name is replaced. -/
def putNamed {α : Type} (name : String) (value : α) : List (String × α) → List (String × α)
  | [] => [(name, value)]
  | (n, v) :: rest =>
    if name < n then (name, value) :: (n, v) :: rest
    else if name = n then (name, value) :: rest
    else (n, v) :: putNamed name value rest

section Sorted

variable {α : Type}

theorem mem_putNamed {name : String} {value : α} {entry : String × α} {list : List (String × α)}
    (h : entry ∈ putNamed name value list) : entry = (name, value) ∨ entry ∈ list := by
  induction list with
  | nil => simpa [putNamed] using h
  | cons head rest ih =>
    obtain ⟨n, v⟩ := head
    rw [putNamed] at h
    split at h
    · simpa using h
    · split at h <;> grind

theorem lookup_entry (name other : String) (value : α) (rest : List (String × α)) :
    ((name, value) :: rest).lookup other =
      if other = name then some value else rest.lookup other := by
  rw [List.lookup_cons]
  by_cases h : other = name
  · simp [h]
  · rw [beq_eq_false_iff_ne.2 h, if_neg h]

theorem lookup_putNamed (name other : String) (value : α) (list : List (String × α)) :
    (putNamed name value list).lookup other =
      if other = name then some value else list.lookup other := by
  induction list with
  | nil => rw [putNamed, lookup_entry]
  | cons head rest ih =>
    obtain ⟨n, v⟩ := head
    rw [putNamed]
    split
    · rw [lookup_entry]
    · split <;> grind [lookup_entry]

theorem lookup_mapValues {β : Type} (f : α → β) (name : String) (list : List (String × α)) :
    (list.map fun entry => (entry.1, f entry.2)).lookup name = (list.lookup name).map f := by
  induction list with
  | nil => rfl
  | cons entry list ih =>
    rw [List.map_cons, lookup_entry, lookup_entry, ih]
    split <;> rfl

theorem pairwise_putNamed {name : String} {value : α} {list : List (String × α)}
    (h : list.Pairwise fun a b => a.1 < b.1) :
    (putNamed name value list).Pairwise fun a b => a.1 < b.1 := by
  induction list with
  | nil => simp [putNamed]
  | cons head rest ih =>
    obtain ⟨n, v⟩ := head
    obtain ⟨first, others⟩ := List.pairwise_cons.1 h
    rw [putNamed]
    split
    · next less =>
      refine List.pairwise_cons.2 ⟨fun e he => ?_, h⟩
      rcases List.mem_cons.1 he with rfl | he
      · exact less
      · exact String.lt_trans less (first e he)
    · split
      · next same => subst same; exact List.pairwise_cons.2 ⟨first, others⟩
      · next less same =>
        refine List.pairwise_cons.2 ⟨fun e he => ?_, ih others⟩
        rcases mem_putNamed he with rfl | he
        · exact Std.lt_of_le_of_ne (String.not_lt.1 less) (Ne.symm same)
        · exact first e he

theorem lookup_reverse {list : List (String × α)} (h : list.Pairwise fun a b => a.1 < b.1)
    (name : String) : list.reverse.lookup name = list.lookup name := by
  induction list with
  | nil => rfl
  | cons head rest ih =>
    obtain ⟨n, v⟩ := head
    obtain ⟨first, others⟩ := List.pairwise_cons.1 h
    rw [List.reverse_cons, List.lookup_append, ih others, lookup_entry, lookup_entry]
    split
    · next same =>
      have none : rest.lookup name = none := by
        refine List.lookup_eq_none_iff.2 fun entry member => ?_
        have less := first entry member
        rw [← same] at less
        simpa using fun equal : name = entry.1 => String.lt_irrefl _ (equal ▸ less)
      rw [none, Option.none_or]
    · rw [List.lookup_nil, Option.or_none]

end Sorted

structure NameMap (α : Type) where
  entries : List (String × α)
  sorted : entries.Pairwise fun a b => a.1 < b.1
deriving DecidableEq, Repr

namespace NameMap

variable {α : Type}

def empty : NameMap α := ⟨[], .nil⟩

instance : Inhabited (NameMap α) := ⟨empty⟩

def get? (map : NameMap α) (name : String) : Option α :=
  map.entries.lookup name

def insert (map : NameMap α) (name : String) (value : α) : NameMap α :=
  ⟨putNamed name value map.entries, pairwise_putNamed map.sorted⟩

def insertAll (map : NameMap α) (list : List (String × α)) : NameMap α :=
  list.foldl (fun map entry => map.insert entry.1 entry.2) map

/-- The map of the given entries, of which the last of each name counts. -/
def ofList (list : List (String × α)) : NameMap α :=
  empty.insertAll list

def names (map : NameMap α) : List String :=
  map.entries.map Prod.fst

def mapValues {β : Type} (f : α → β) (map : NameMap α) : NameMap β where
  entries := map.entries.map fun entry => (entry.1, f entry.2)
  sorted := List.pairwise_map.2 map.sorted

@[simp] theorem get?_empty (name : String) : (empty : NameMap α).get? name = none := rfl

@[simp] theorem get?_insert (map : NameMap α) (name other : String) (value : α) :
    (map.insert name value).get? other = if other = name then some value else map.get? other :=
  lookup_putNamed name other value map.entries

@[simp] theorem get?_mapValues {β : Type} (f : α → β) (map : NameMap α) (name : String) :
    (map.mapValues f).get? name = (map.get? name).map f :=
  lookup_mapValues f name map.entries

theorem get?_insertAll (map : NameMap α) (list : List (String × α)) (name : String) :
    (map.insertAll list).get? name = (list.reverse.lookup name).or (map.get? name) := by
  induction list generalizing map with
  | nil => rfl
  | cons entry list ih =>
    obtain ⟨n, v⟩ := entry
    rw [insertAll, List.foldl_cons]
    refine (ih _).trans ?_
    rw [List.reverse_cons, List.lookup_append, lookup_entry, get?_insert, Option.or_assoc]
    by_cases same : name = n <;> simp [same]

theorem get?_ofList (list : List (String × α)) (name : String) :
    (ofList list).get? name = list.reverse.lookup name := by
  rw [ofList, get?_insertAll, get?_empty, Option.or_none]

theorem get?_insertAll_entries (map other : NameMap α) (name : String) :
    (map.insertAll other.entries).get? name = (other.get? name).or (map.get? name) := by
  rw [get?_insertAll, lookup_reverse other.sorted]
  rfl

end NameMap

end SchemaGate

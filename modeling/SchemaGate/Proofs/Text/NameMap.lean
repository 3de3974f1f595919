import Mathlib
import SchemaGate.Text.NameMap

/-!
# Entries of maps by name

No name stands twice in a map.  Main statements: `get?_eq_some_iff` says what is found in terms of the
entries, and `perm_entries_ofList` that entries with different names are all kept, each once.
-/

namespace SchemaGate

variable {α : Type}

theorem lookup_eq_some_iff_mem {list : List (String × α)} (distinct : (list.map Prod.fst).Nodup)
    {name : String} {value : α} : list.lookup name = some value ↔ (name, value) ∈ list := by
  induction list with
  | nil => simp
  | cons entry list ih =>
    obtain ⟨n, v⟩ := entry
    rw [List.map_cons, List.nodup_cons] at distinct
    rw [lookup_entry, List.mem_cons]
    by_cases same : name = n
    · have absent : (name, value) ∉ list := fun member =>
        distinct.1 (List.mem_map.2 ⟨(name, value), member, same⟩)
      simp [same, same ▸ absent, eq_comm]
    · simp [same, ih distinct.2]

theorem perm_putNamed {name : String} {list : List (String × α)} (fresh : name ∉ list.map Prod.fst)
    (value : α) : (putNamed name value list).Perm ((name, value) :: list) := by
  induction list with
  | nil => rfl
  | cons entry list ih =>
    obtain ⟨n, v⟩ := entry
    rw [List.map_cons, List.mem_cons, not_or] at fresh
    rw [putNamed, if_neg fresh.1]
    split
    · rfl
    · exact ((ih fresh.2).cons _).trans (.swap _ _ _)

theorem lookup_map_eq_find? {β : Type} (key : β → String) (value : β → α) (list : List β)
    (name : String) :
    (list.map fun b => (key b, value b)).lookup name =
      (list.find? fun b => key b = name).map value := by
  induction list with
  | nil => rfl
  | cons b list ih =>
    rw [List.map_cons, lookup_entry]
    by_cases same : name = key b
    · rw [if_pos same, List.find?_cons_of_pos (by simpa using same.symm), Option.map_some]
    · rw [if_neg same, ih, List.find?_cons_of_neg (by simpa using Ne.symm same)]

namespace NameMap

theorem nodup_names (map : NameMap α) : (map.entries.map Prod.fst).Nodup := by
  refine List.pairwise_map.2 (map.sorted.imp fun {a b} less same => ?_)
  exact String.lt_irrefl _ (same ▸ less)

theorem get?_eq_some_iff (map : NameMap α) {name : String} {value : α} :
    map.get? name = some value ↔ (name, value) ∈ map.entries :=
  lookup_eq_some_iff_mem map.nodup_names

theorem mem_of_get?_ofList {list : List (String × α)} {name : String} {value : α}
    (found : (ofList list).get? name = some value) : (name, value) ∈ list := by
  rw [get?_ofList, List.lookup_eq_some_iff] at found
  obtain ⟨before, after, split, -⟩ := found
  have member : (name, value) ∈ list.reverse := by simp [split]
  exact List.mem_reverse.1 member

theorem get?_ofList_of_nodup {list : List (String × α)} (distinct : (list.map Prod.fst).Nodup)
    (name : String) : (ofList list).get? name = list.lookup name := by
  have reversed : (list.reverse.map Prod.fst).Nodup := by
    rw [List.map_reverse]
    exact List.nodup_reverse.2 distinct
  rw [get?_ofList]
  ext value
  rw [lookup_eq_some_iff_mem reversed, lookup_eq_some_iff_mem distinct, List.mem_reverse]

theorem eq_of_perm {a b : NameMap α} (h : a.entries.Perm b.entries) : a = b := by
  obtain ⟨entries, sorted⟩ := a
  obtain ⟨others, sortedOthers⟩ := b
  have same : entries = others := by
    refine h.eq_of_pairwise (fun x y _ _ less greater => ?_) sorted sortedOthers
    exact absurd (String.lt_trans less greater) (String.lt_irrefl _)
  subst same
  rfl

theorem perm_entries_insertAll (map : NameMap α) {list : List (String × α)}
    (distinct : ((list ++ map.entries).map Prod.fst).Nodup) :
    (map.insertAll list).entries.Perm (list ++ map.entries) := by
  induction list generalizing map with
  | nil => rfl
  | cons entry list ih =>
    obtain ⟨name, value⟩ := entry
    rw [List.cons_append, List.map_cons, List.nodup_cons] at distinct
    have fresh : name ∉ map.entries.map Prod.fst := fun member =>
      distinct.1 (by rw [List.map_append]; exact List.mem_append_right _ member)
    have first : (map.insert name value).entries.Perm ((name, value) :: map.entries) :=
      perm_putNamed fresh value
    have moved : (list ++ (map.insert name value).entries).Perm
        ((name, value) :: (list ++ map.entries)) := (first.append_left list).trans List.perm_middle
    have still : ((list ++ (map.insert name value).entries).map Prod.fst).Nodup :=
      ((moved.map Prod.fst).nodup_iff).2 (List.nodup_cons.2 distinct)
    exact (ih (map.insert name value) still).trans moved

theorem perm_entries_ofList {list : List (String × α)} (distinct : (list.map Prod.fst).Nodup) :
    (ofList list).entries.Perm list := by
  have none : list ++ (empty : NameMap α).entries = list := List.append_nil list
  have kept := perm_entries_insertAll (empty : NameMap α) (none.symm ▸ distinct)
  rw [none] at kept
  exact kept

end NameMap

end SchemaGate

import SchemaGate.Gate.Message
import SchemaGate.Proofs.Text.NameMap

/-!
# The parts of a message by name

Headers and attributes may have any names, and all parts of a message are bound in one map.  Main statement:
no part takes the place of another, whatever the names are, so each is found under its own name with its own
value, and nothing else is bound.
-/

namespace SchemaGate

/-- The bindings of a record: where it stands, its key if it has one, and the last header of each name. -/
structure Broker.Message.BoundIn (m : Broker.Message) (b : Bindings) : Prop where
  topic : b.get? "message.topic" = some m.topic
  partition : b.get? "message.partition" = some (toString m.partition.toInt)
  offset : b.get? "message.offset" = some (toString m.offset.toInt)
  key : b.get? "message.key" = m.key.map Utf8.lossy
  absent : ∀ name, b.get? ("message.header." ++ name) = none ↔ ∀ h ∈ m.headers, h.name ≠ name
  last : ∀ before h after, m.headers = before ++ h :: after → (∀ later ∈ after, later.name ≠ h.name) →
    b.get? ("message.header." ++ h.name) = some ((h.value.map Utf8.lossy).getD "")
  found : ∀ name, (∃ h ∈ m.headers, h.name = name) →
    b.get? ("message.header." ++ name) = some (((m.header? name).map Utf8.lossy).getD "")
  only : ∀ entry ∈ b.entries, entry.1 ∈ ["message.topic", "message.partition", "message.offset"] ∨
    (entry.1 = "message.key" ∧ m.key.isSome = true) ∨
    ∃ h ∈ m.headers, entry.1 = "message.header." ++ h.name
  listed : ∀ name value, (name, value) ∈ b.entries ↔ b.get? name = some value
  ordered : b.entries.Pairwise fun first second => first.1 < second.1

/-- The bindings of a message: its id if it has one, its headers and its attributes. -/
structure Message.BoundIn (m : Message) (b : Bindings) : Prop where
  id : b.get? "message.id" = m.id?
  header : ∀ name, b.get? ("message.header." ++ name) = m.headers.get? name
  tag : ∀ name, b.get? ("message.attribute." ++ name) = m.attributes.get? name
  only : ∀ entry ∈ b.entries, (entry.1 = "message.id" ∧ m.id?.isSome = true) ∨
    (∃ name ∈ m.headers.names, entry.1 = "message.header." ++ name) ∨
    ∃ name ∈ m.attributes.names, entry.1 = "message.attribute." ++ name
  listed : ∀ name value, (name, value) ∈ b.entries ↔ b.get? name = some value
  ordered : b.entries.Pairwise fun first second => first.1 < second.1

theorem not_prefix_append {s t : String} (h : ¬ s.toList <+: t.toList) (h' : ¬ t.toList <+: s.toList)
    (name : String) : ¬ s.toList <+: (t ++ name).toList := by
  intro under
  have other : t.toList <+: (t ++ name).toList := by
    rw [String.toList_append]
    exact List.prefix_append _ _
  exact (List.prefix_or_prefix_of_prefix under other).elim h h'

theorem append_ne_of_unlabelled {label name : String} (other : ¬ label.toList <+: name.toList)
    (rest : String) : label ++ rest ≠ name := by
  rintro rfl
  rw [String.toList_append] at other
  exact other (List.prefix_append _ _)

section Labelled

variable {α β : Type} (label : String) (key : β → String) (value : β → α) (list : List β)

theorem lookup_labelled (name : String) :
    (list.map fun b => (label ++ key b, value b)).reverse.lookup (label ++ name) =
      (list.reverse.find? fun b => key b = name).map value := by
  rw [← List.map_reverse, lookup_map_eq_find?]
  simp only [String.append_right_inj]

theorem lookup_labelled_of_unlabelled {name : String} (other : ¬ label.toList <+: name.toList) :
    (list.map fun b => (label ++ key b, value b)).reverse.lookup name = none := by
  refine List.lookup_eq_none_iff.2 fun entry member => bne_iff_ne.2 ?_
  obtain ⟨b, -, rfl⟩ := List.mem_map.1 (List.mem_reverse.1 member)
  exact (append_ne_of_unlabelled other (key b)).symm

end Labelled

theorem NameMap.lookup_labelled_entries {α : Type} (label : String) (map : NameMap α) (name : String) :
    (map.entries.map fun entry => (label ++ entry.1, entry.2)).reverse.lookup (label ++ name) =
      map.get? name := by
  rw [lookup_labelled label Prod.fst Prod.snd, ← lookup_map_eq_find?, List.map_id', get?,
    lookup_reverse map.sorted]

namespace Broker.Message

variable (m : Broker.Message)

/-- What is bound of a record besides its headers. -/
def ownBindings : List (String × String) :=
  [("message.topic", m.topic), ("message.partition", toString m.partition.toInt),
    ("message.offset", toString m.offset.toInt)] ++
    m.key.toList.map fun key => ("message.key", Utf8.lossy key)

theorem get?_bindings (name : String) :
    m.bindings.get? name =
      ((m.headers.map fun h =>
        ("message.header." ++ h.name, Utf8.lossy (h.value.getD []))).reverse.lookup name).or
        (m.ownBindings.reverse.lookup name) := by
  rw [bindings, NameMap.get?_ofList, List.reverse_append, List.lookup_append]
  rfl

theorem names_ownBindings {entry : String × String} (own : entry ∈ m.ownBindings) :
    entry.1 ∈ ["message.topic", "message.partition", "message.offset"] ∨
      entry.1 = "message.key" ∧ m.key.isSome = true := by
  rcases List.mem_append.1 own with coordinate | keyed
  · exact .inl (List.mem_map_of_mem coordinate)
  · obtain ⟨key, given, rfl⟩ := List.mem_map.1 keyed
    exact .inr ⟨rfl, Option.isSome_of_mem (Option.mem_toList.1 given)⟩

theorem nodup_ownBindings : (m.ownBindings.reverse.map Prod.fst).Nodup := by
  cases given : m.key <;> simp [ownBindings, given]

theorem lookup_ownBindings_header (name : String) :
    m.ownBindings.reverse.lookup ("message.header." ++ name) = none := by
  have apart : ∀ own ∈ ["message.topic", "message.partition", "message.offset"],
      ¬ "message.header.".toList <+: own.toList := by decide
  refine List.lookup_eq_none_iff.2 fun entry member => bne_iff_ne.2 ?_
  refine append_ne_of_unlabelled ?_ name
  rcases m.names_ownBindings (List.mem_reverse.1 member) with coordinate | ⟨key, -⟩
  · exact apart _ coordinate
  · rw [key]
    decide

theorem get?_bindings_header (name : String) :
    m.bindings.get? ("message.header." ++ name) =
      (m.headers.reverse.find? fun h => h.name = name).map fun h => Utf8.lossy (h.value.getD []) := by
  rw [get?_bindings, lookup_ownBindings_header, Option.or_none,
    lookup_labelled "message.header." Header.name]

theorem get?_bindings_own {name : String} (other : ¬ "message.header.".toList <+: name.toList) :
    m.bindings.get? name = m.ownBindings.reverse.lookup name := by
  rw [get?_bindings, lookup_labelled_of_unlabelled "message.header." Header.name _ _ other,
    Option.none_or]

theorem get?_of_mem_ownBindings {name value : String}
    (other : ¬ "message.header.".toList <+: name.toList) (own : (name, value) ∈ m.ownBindings) :
    m.bindings.get? name = some value := by
  rw [m.get?_bindings_own other, lookup_eq_some_iff_mem m.nodup_ownBindings]
  exact List.mem_reverse.2 own

theorem lossy_getD (value? : Option Bytes) :
    Utf8.lossy (value?.getD []) = (value?.map Utf8.lossy).getD "" := by
  cases value? with
  | none => exact Utf8.lossy_encode ""
  | some value => rfl

theorem boundIn_bindings : m.BoundIn m.bindings where
  topic := m.get?_of_mem_ownBindings (by decide) (by simp [ownBindings])
  partition := m.get?_of_mem_ownBindings (by decide) (by simp [ownBindings])
  offset := m.get?_of_mem_ownBindings (by decide) (by simp [ownBindings])
  key := by
    cases given : m.key with
    | none =>
      rw [m.get?_bindings_own (by decide)]
      simp [ownBindings, given, lookup_entry]
    | some key => exact m.get?_of_mem_ownBindings (by decide) (by simp [ownBindings, given])
  absent name := by simp [get?_bindings_header]
  last before h after split others := by
    have none : after.reverse.find? (fun later => later.name = h.name) = none :=
      List.find?_eq_none.2 fun later member => by simpa using others later (List.mem_reverse.1 member)
    rw [get?_bindings_header, split, List.reverse_append, List.reverse_cons, List.append_assoc,
      List.find?_append, none, Option.none_or, List.singleton_append, List.find?_cons_of_pos (by simp),
      Option.map_some, lossy_getD]
  found name present := by
    obtain ⟨h, sought⟩ : ∃ h, m.headers.reverse.find? (fun h => h.name = name) = some h :=
      Option.isSome_iff_exists.1 (by simpa using present)
    rw [get?_bindings_header, header?, sought, Option.map_some, Option.bind_some, lossy_getD]
  only entry member := by
    have bound : entry ∈ m.ownBindings ++ _ :=
      NameMap.mem_of_get?_ofList ((NameMap.get?_eq_some_iff _).2 member)
    rcases List.mem_append.1 bound with own | header
    · exact (m.names_ownBindings own).imp_right .inl
    · obtain ⟨h, present, rfl⟩ := List.mem_map.1 header
      exact .inr (.inr ⟨h, present, rfl⟩)
  listed name value := m.bindings.get?_eq_some_iff.symm
  ordered := m.bindings.sorted

end Broker.Message

namespace Message

variable (m : Message)

theorem get?_bindings (name : String) :
    m.bindings.get? name =
      ((m.attributes.entries.map fun tag =>
          ("message.attribute." ++ tag.1, tag.2)).reverse.lookup name).or
        (((m.headers.entries.map fun h => ("message.header." ++ h.1, h.2)).reverse.lookup name).or
          ((m.id?.toList.map fun id => ("message.id", id)).reverse.lookup name)) := by
  rw [bindings, NameMap.get?_ofList, List.reverse_append, List.reverse_append, List.lookup_append,
    List.lookup_append]
  rfl

theorem lookup_id (name : String) :
    (m.id?.toList.map fun id => ("message.id", id)).reverse.lookup name =
      if name = "message.id" then m.id? else none := by
  cases m.id? with
  | none => simp
  | some id => exact lookup_entry "message.id" name id []

theorem boundIn_bindings : m.BoundIn m.bindings where
  id := by
    rw [get?_bindings,
      lookup_labelled_of_unlabelled "message.attribute." Prod.fst Prod.snd _ (by decide),
      lookup_labelled_of_unlabelled "message.header." Prod.fst Prod.snd _ (by decide), lookup_id]
    rfl
  header name := by
    have apart : "message.header." ++ name ≠ "message.id" :=
      append_ne_of_unlabelled (by decide) name
    rw [get?_bindings,
      lookup_labelled_of_unlabelled "message.attribute." Prod.fst Prod.snd _
        (not_prefix_append (by decide) (by decide) name),
      NameMap.lookup_labelled_entries, lookup_id, if_neg apart, Option.none_or, Option.or_none]
  tag name := by
    have apart : "message.attribute." ++ name ≠ "message.id" :=
      append_ne_of_unlabelled (by decide) name
    rw [get?_bindings, NameMap.lookup_labelled_entries,
      lookup_labelled_of_unlabelled "message.header." Prod.fst Prod.snd _
        (not_prefix_append (by decide) (by decide) name),
      lookup_id, if_neg apart, Option.or_none, Option.or_none]
  only entry member := by
    have bound : entry ∈ (_ ++ _) ++ _ :=
      NameMap.mem_of_get?_ofList ((NameMap.get?_eq_some_iff _).2 member)
    rcases List.mem_append.1 bound with before | tag
    · rcases List.mem_append.1 before with own | header
      · obtain ⟨id, given, rfl⟩ := List.mem_map.1 own
        exact .inl ⟨rfl, Option.isSome_of_mem (Option.mem_toList.1 given)⟩
      · obtain ⟨h, present, rfl⟩ := List.mem_map.1 header
        exact .inr (.inl ⟨h.1, List.mem_map_of_mem present, rfl⟩)
    · obtain ⟨a, present, rfl⟩ := List.mem_map.1 tag
      exact .inr (.inr ⟨a.1, List.mem_map_of_mem present, rfl⟩)
  listed name value := m.bindings.get?_eq_some_iff.symm
  ordered := m.bindings.sorted

end Message

/-- Every part of a record or a message is bound to its own name and found there, whatever names the headers
and the attributes have, and nothing else is bound. -/
theorem bindings_keep_parts_apart :
    (∀ m : Broker.Message, m.BoundIn m.bindings) ∧ ∀ m : Message, m.BoundIn m.bindings :=
  ⟨Broker.Message.boundIn_bindings, Message.boundIn_bindings⟩

/-- The record has a header without a value after one of the same name with one, and headers without a name
and with the name of another part; the message has a header that is named as an id. -/
theorem bindings_keep_parts_apart_hostile_names :
    let record : Broker.Message :=
      { topic := "orders", partition := 2, offset := -1, key := some [255], content := []
        headers := [⟨"x", some [97]⟩, ⟨"", some [98]⟩, ⟨"x", none⟩, ⟨"../message.key", some []⟩] }
    let message : Message :=
      { content := [], headers := .ofList [("id", "h")], attributes := .ofList [("header.id", "a")] }
    record.bindings.get? (headerBinding "x") = some "" ∧
      record.bindings.get? (headerBinding "") = some "b" ∧
      record.bindings.get? (headerBinding "y") = none ∧
      record.bindings.get? "message.key" = some "\uFFFD" ∧
      record.bindings.get? "message.offset" = some "-1" ∧
      message.bindings.get? "message.id" = none ∧
      message.bindings.get? (headerBinding "id") = some "h" ∧
      message.bindings.get? (attributeBinding "header.id") = some "a" := by
  intro record message
  have inRecord := bindings_keep_parts_apart.1 record
  have inMessage := bindings_keep_parts_apart.2 message
  have mark : Utf8.lossy [255] = "\uFFFD" := by decide +kernel
  have letter : Utf8.lossy [98] = "b" := by decide +kernel
  refine ⟨inRecord.last [_, _] ⟨"x", none⟩ [_] rfl (by decide), ?_,
    (inRecord.absent "y").2 (by decide), ?_, inRecord.offset, inMessage.id, inMessage.header "id",
    inMessage.tag "header.id"⟩
  · exact (inRecord.found "" (by decide)).trans (congrArg some letter)
  · exact inRecord.key.trans (congrArg some mark)

end SchemaGate

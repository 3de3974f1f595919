import Mathlib
import SchemaGate.Schema.Directory
import SchemaGate.Proofs.Text.NameMap

/-!
# What a directory loads

A directory is loaded if every entry in it may stand there and its schema files are not too many.  Main
statement: that it is loaded exactly then, and that the registry holds its schema files and nothing else,
in whatever order the entries are listed.
-/

namespace SchemaGate.SchemaDirectory

def suffix : String := ".schema.json"

def isSchemaFile (entry : Entry) : Bool :=
  match entry.kind with
  | .file _ => suffixChars.isSuffixOf entry.name.toList
  | .directory | .link => false

/-- An entry that does not keep its directory from being loaded. -/
structure Admitted (limits : LoadLimits) (entry : Entry) : Prop where
  noLink : ∀ subject, entry ≠ ⟨subject ++ suffix, .link⟩
  noBareFile : ∀ content, entry ≠ ⟨suffix, .file content⟩
  small : ∀ subject content, entry = ⟨subject ++ suffix, .file content⟩ →
    content.length ≤ limits.bytes
  isText : ∀ subject content, entry = ⟨subject ++ suffix, .file content⟩ →
    ∃ text, content = Utf8.encode text

/-- The entries of a directory that may be loaded, after `loaded` schemas of others. -/
structure Loadable (limits : LoadLimits) (loaded : Nat) (entries : List Entry) : Prop where
  admitted : ∀ entry ∈ entries, Admitted limits entry
  count : loaded + (entries.filter isSchemaFile).length ≤ limits.schemas

/-- The registry holds one schema for each schema file among the entries, and no other. -/
structure Holds (registry : Registry) (entries : List Entry) : Prop where
  get?_iff : ∀ subject schema, registry.get? subject = some schema ↔
    ∃ text, ⟨subject ++ suffix, .file (Utf8.encode text)⟩ ∈ entries ∧
      schema = { id := subject, subject, version := "1", content := text }
  size : registry.entries.length = (entries.filter isSchemaFile).length

/-- The schema of a schema file that is text. -/
def schema? (entry : Entry) : Option Schema :=
  match stem? entry.name, entry.kind with
  | some subject, .file content => (Utf8.decode? content).map (Schema.ofSubject subject)
  | _, _ => none

theorem stem?_append (subject : String) : stem? (subject ++ suffix) = some subject := by
  have chars : (subject ++ suffix).toList = subject.toList ++ suffixChars := String.toList_append
  have ends : suffixChars.isSuffixOf (subject.toList ++ suffixChars) = true :=
    List.isSuffixOf_iff_suffix.2 (List.suffix_append _ _)
  simp [stem?, chars, ends]

theorem stem?_eq_some_iff {name subject : String} :
    stem? name = some subject ↔ name = subject ++ suffix := by
  constructor
  · intro h
    have ends : suffixChars.isSuffixOf name.toList = true := by
      by_contra other
      simp [stem?, other] at h
    obtain ⟨stem, split⟩ := List.isSuffixOf_iff_suffix.1 ends
    have joined : name = String.ofList stem ++ suffix := by
      rw [← String.ofList_toList (s := name), ← split, String.ofList_append]
      rfl
    rw [joined, stem?_append] at h
    rw [joined, Option.some.inj h]
  · rintro rfl
    exact stem?_append subject

theorem stem?_isSome (name : String) : (stem? name).isSome = suffixChars.isSuffixOf name.toList := by
  simp only [stem?]
  cases suffixChars.isSuffixOf name.toList <;> rfl

theorem append_suffix_inj {a b : String} (h : a ++ suffix = b ++ suffix) : a = b := by
  have stems := congrArg stem? h
  rw [stem?_append, stem?_append] at stems
  exact Option.some.inj stems

theorem schema?_eq_some_iff {entry : Entry} {schema : Schema} :
    schema? entry = some schema ↔
      ∃ subject text, entry = ⟨subject ++ suffix, .file (Utf8.encode text)⟩ ∧
        schema = Schema.ofSubject subject text := by
  constructor
  · intro h
    unfold schema? at h
    split at h
    · next subject content named regular =>
      obtain ⟨text, decoded, rfl⟩ := Option.map_eq_some_iff.1 h
      refine ⟨subject, text, ?_, rfl⟩
      rw [← stem?_eq_some_iff.1 named, Utf8.encode_of_decode? decoded, ← regular]
    · cases h
  · rintro ⟨subject, text, rfl, rfl⟩
    simp only [schema?, stem?_append, Utf8.decode?_encode, Option.map_some]

theorem schema?_isSome {limits : LoadLimits} {entry : Entry} (admitted : Admitted limits entry) :
    (schema? entry).isSome = isSchemaFile entry := by
  obtain ⟨name, kind⟩ := entry
  cases named : stem? name with
  | none =>
    have other : suffixChars.isSuffixOf name.toList = false := by rw [← stem?_isSome, named]; rfl
    cases kind <;> simp only [schema?, named, isSchemaFile, other] <;> rfl
  | some subject =>
    have ends : suffixChars.isSuffixOf name.toList = true := by rw [← stem?_isSome, named]; rfl
    cases kind with
    | file content =>
      obtain rfl := stem?_eq_some_iff.1 named
      obtain ⟨text, rfl⟩ := admitted.isText subject content rfl
      simp only [schema?, named, Utf8.decode?_encode, isSchemaFile, ends]
      rfl
    | directory => simp only [schema?, named, isSchemaFile]; rfl
    | link => simp only [schema?, named, isSchemaFile]; rfl

/-- What comes of an entry after `loaded` schemas: nothing, its schema, or a refusal. -/
inductive EntryRead (limits : LoadLimits) (loaded : Nat) (entry : Entry) :
    Except SchemaError (Option Schema) → Prop where
  | passedOver (admitted : Admitted limits entry) (other : schema? entry = none) :
      EntryRead limits loaded entry (.ok none)
  | read {schema : Schema} (admitted : Admitted limits entry) (room : loaded < limits.schemas)
      (found : schema? entry = some schema) : EntryRead limits loaded entry (.ok (some schema))
  | refused {reason : String}
      (cause : Admitted limits entry → isSchemaFile entry = true ∧ limits.schemas ≤ loaded) :
      EntryRead limits loaded entry (.error (.loadFailed reason))

theorem admitted_of_stem?_eq_none {limits : LoadLimits} {entry : Entry}
    (other : stem? entry.name = none) : Admitted limits entry := by
  have unnamed (subject : String) (kind : EntryKind) : entry ≠ ⟨subject ++ suffix, kind⟩ := by
    rintro rfl
    rw [stem?_append] at other
    cases other
  exact ⟨fun subject => unnamed subject _, fun content => unnamed "" _,
    fun subject content same => absurd same (unnamed subject _),
    fun subject content same => absurd same (unnamed subject _)⟩

theorem admitted_directory (limits : LoadLimits) (name : String) :
    Admitted limits ⟨name, .directory⟩ :=
  ⟨by simp, by simp, by simp, by simp⟩

theorem admitted_file {limits : LoadLimits} {subject text : String} (named : subject ≠ "")
    (small : (Utf8.encode text).length ≤ limits.bytes) :
    Admitted limits ⟨subject ++ suffix, .file (Utf8.encode text)⟩ := by
  refine ⟨by simp, fun content same => ?_, fun other content same => ?_, fun other content same => ?_⟩
  · have names : subject ++ suffix = "" ++ suffix := by
      rw [String.empty_append]
      exact congrArg Entry.name same
    exact named (append_suffix_inj names)
  · obtain rfl : Utf8.encode text = content := by simpa using congrArg Entry.kind same
    exact small
  · exact ⟨text, by simpa using (congrArg Entry.kind same).symm⟩

theorem entryRead_readEntry (limits : LoadLimits) (path : String) (loaded : Nat) (entry : Entry) :
    EntryRead limits loaded entry (readEntry limits path loaded entry) := by
  obtain ⟨name, kind⟩ := entry
  cases named : stem? name with
  | none =>
    simp only [readEntry, named]
    exact .passedOver (admitted_of_stem?_eq_none named) (by simp [schema?, named])
  | some subject =>
    obtain rfl := stem?_eq_some_iff.1 named
    cases kind with
    | directory =>
      simp only [readEntry, named]
      exact .passedOver (admitted_directory limits _) (by simp [schema?])
    | link =>
      simp only [readEntry, named]
      exact .refused fun admitted => absurd rfl (admitted.noLink subject)
    | file content =>
      simp only [readEntry, named, String.isEmpty_iff]
      by_cases bare : subject = ""
      · rw [if_pos bare]
        refine .refused fun admitted => absurd ?_ (admitted.noBareFile content)
        rw [bare, String.empty_append]
      rw [if_neg bare]
      by_cases full : limits.schemas < loaded + 1
      · rw [if_pos full]
        refine .refused fun _ => ⟨?_, by omega⟩
        rw [isSchemaFile, ← stem?_isSome, named]
        rfl
      rw [if_neg full, readFile]
      by_cases large : limits.bytes < content.length
      · rw [if_pos large]
        exact .refused fun admitted => absurd (admitted.small subject content rfl) (by omega)
      rw [if_neg large]
      cases decoded : Utf8.decode? content with
      | none =>
        refine .refused fun admitted => ?_
        obtain ⟨text, rfl⟩ := admitted.isText subject content rfl
        rw [Utf8.decode?_encode] at decoded
        cases decoded
      | some text =>
        obtain rfl := Utf8.encode_of_decode? decoded
        exact .read (admitted_file bare (by omega)) (by omega)
          (schema?_eq_some_iff.2 ⟨subject, text, rfl, rfl⟩)

section Entries

variable {limits : LoadLimits} {path : String} {loaded : Nat} {entries : List Entry}

theorem loadable_cons {entry : Entry} :
    Loadable limits loaded (entry :: entries) ↔
      Admitted limits entry ∧ (isSchemaFile entry = true → loaded < limits.schemas) ∧
        Loadable limits (if isSchemaFile entry then loaded + 1 else loaded) entries := by
  constructor
  · rintro ⟨admitted, count⟩
    refine ⟨admitted entry (by simp), fun counts => ?_,
      fun other member => admitted other (by simp [member]), ?_⟩
    · rw [List.filter_cons_of_pos counts, List.length_cons] at count
      omega
    · rw [List.filter_cons] at count
      split at count
      · next counts =>
        rw [List.length_cons] at count
        rw [if_pos counts]
        omega
      · next other => rwa [if_neg other]
  · rintro ⟨first, -, others, count⟩
    refine ⟨fun other member => ?_, ?_⟩
    · rcases List.mem_cons.1 member with rfl | later
      · exact first
      · exact others other later
    · rw [List.filter_cons]
      split
      · next counts =>
        rw [if_pos counts] at count
        rw [List.length_cons]
        omega
      · next other => rwa [if_neg other] at count

theorem schemas_cases (within : loaded ≤ limits.schemas) :
    (Loadable limits loaded entries ∧
        schemas limits path loaded entries = .ok (entries.filterMap schema?)) ∨
      (¬ Loadable limits loaded entries ∧
        ∃ reason, schemas limits path loaded entries = .error (.loadFailed reason)) := by
  induction entries generalizing loaded with
  | nil => exact .inl ⟨⟨by simp, by simpa using within⟩, rfl⟩
  | cons entry entries ih =>
    have step := entryRead_readEntry limits path loaded entry
    rw [schemas, loadable_cons, List.filterMap_cons]
    generalize readEntry limits path loaded entry = result at step
    cases step with
    | passedOver admitted other =>
      have uncounted : isSchemaFile entry = false := by rw [← schema?_isSome admitted, other]; rfl
      simpa [admitted, uncounted, other, bind, Except.bind] using ih within
    | @read schema admitted room found =>
      have counts : isSchemaFile entry = true := by rw [← schema?_isSome admitted, found]; rfl
      rcases ih (Nat.succ_le_of_lt room) with ⟨later, result⟩ | ⟨later, reason, result⟩
      · exact .inl ⟨⟨admitted, fun _ => room, by rwa [if_pos counts]⟩, by
          simp [result, found, bind, Except.bind]⟩
      · exact .inr ⟨fun all => later (by simpa [counts] using all.2.2), reason, by
          simp [result, bind, Except.bind]⟩
    | @refused reason cause =>
      refine .inr ⟨fun all => ?_, reason, rfl⟩
      obtain ⟨counts, full⟩ := cause all.1
      have room := all.2.1 counts
      omega

theorem load_cases (limits : LoadLimits) (path : String) (entries : List Entry) :
    (Loadable limits 0 entries ∧ load limits path (.ok entries) =
        .ok ((entries.filterMap schema?).foldl Registry.register .empty)) ∨
      (¬ Loadable limits 0 entries ∧
        ∃ reason, load limits path (.ok entries) = .error (.loadFailed reason)) := by
  have cases : (Loadable limits 0 entries ∧
        schemas limits path 0 entries = .ok (entries.filterMap schema?)) ∨
      (¬ Loadable limits 0 entries ∧
        ∃ reason, schemas limits path 0 entries = .error (.loadFailed reason)) :=
    schemas_cases (Nat.zero_le limits.schemas)
  rcases cases with ⟨loadable, read⟩ | ⟨not, reason, read⟩
  · exact .inl ⟨loadable, by simp [load, read, bind, Except.bind]⟩
  · exact .inr ⟨not, reason, by simp [load, read, bind, Except.bind]⟩

theorem nodup_subjects (distinct : (entries.map Entry.name).Nodup) :
    ((entries.filterMap schema?).map Schema.subject).Nodup := by
  refine List.pairwise_map.2 ?_
  refine (List.pairwise_map.1 distinct).filterMap schema? fun a b different x hx y hy same => ?_
  obtain ⟨subject, text, rfl, rfl⟩ := schema?_eq_some_iff.1 hx
  obtain ⟨other, content, rfl, rfl⟩ := schema?_eq_some_iff.1 hy
  have subjects : subject = other := same
  exact different (by rw [subjects])

theorem perm_entries_register {found : List Schema} (distinct : (found.map Schema.subject).Nodup) :
    (found.foldl Registry.register .empty).entries.Perm
      (found.map fun schema => (schema.subject, schema)) := by
  have same : found.foldl Registry.register .empty =
      NameMap.ofList (found.map fun schema => (schema.subject, schema)) := by
    rw [NameMap.ofList, NameMap.insertAll, List.foldl_map]
    rfl
  rw [same]
  exact NameMap.perm_entries_ofList (by rwa [List.map_map])

theorem holds_register (distinct : (entries.map Entry.name).Nodup)
    (admitted : ∀ entry ∈ entries, Admitted limits entry) :
    Holds ((entries.filterMap schema?).foldl Registry.register .empty) entries := by
  have kept := perm_entries_register (nodup_subjects distinct)
  refine ⟨fun subject schema => ?_, ?_⟩
  · rw [NameMap.get?_eq_some_iff, kept.mem_iff]
    simp only [List.mem_map, List.mem_filterMap, Prod.mk.injEq]
    constructor
    · rintro ⟨found, ⟨entry, member, read⟩, named, rfl⟩
      obtain ⟨stem, text, rfl, rfl⟩ := schema?_eq_some_iff.1 read
      obtain rfl : stem = subject := named
      exact ⟨text, member, rfl⟩
    · rintro ⟨text, member, rfl⟩
      exact ⟨_, ⟨_, member, schema?_eq_some_iff.2 ⟨subject, text, rfl, rfl⟩⟩, rfl, rfl⟩
  · rw [kept.length_eq, List.length_map, List.length_filterMap_eq_countP,
      ← List.countP_eq_length_filter]
    exact List.countP_congr fun entry member => by rw [schema?_isSome (admitted entry member)]

theorem Loadable.of_perm {listing : List Entry} (h : listing.Perm entries)
    (loadable : Loadable limits loaded entries) : Loadable limits loaded listing where
  admitted := fun entry member => loadable.admitted entry (h.mem_iff.1 member)
  count := by
    rw [(h.filter isSchemaFile).length_eq]
    exact loadable.count

theorem register_perm {listing : List Entry} (distinct : (entries.map Entry.name).Nodup)
    (h : listing.Perm entries) :
    (listing.filterMap schema?).foldl Registry.register .empty =
      (entries.filterMap schema?).foldl Registry.register .empty := by
  have distinctListing : (listing.map Entry.name).Nodup := (h.map Entry.name).nodup_iff.2 distinct
  refine NameMap.eq_of_perm ?_
  exact (perm_entries_register (nodup_subjects distinctListing)).trans
    (((h.filterMap schema?).map _).trans (perm_entries_register (nodup_subjects distinct)).symm)

end Entries

/-- A directory, whose entries have different names, is loaded exactly if it holds no link that is named as
a schema, no schema file without a subject, none that is too large or not text, and no more than are
allowed.  The registry then holds just the schema files, each under its subject.  In all other cases there
is no registry, and how the entries are ordered makes no difference to any of it. -/
theorem load_settled_by_entries (limits : LoadLimits) (path : String) (entries : List Entry)
    (distinct : (entries.map Entry.name).Nodup) :
    (Loadable limits 0 entries →
      ∃ registry, load limits path (.ok entries) = .ok registry ∧ Holds registry entries) ∧
    (¬ Loadable limits 0 entries →
      ∃ reason, load limits path (.ok entries) = .error (.loadFailed reason)) ∧
    ∀ listing, listing.Perm entries → ∀ registry,
      load limits path (.ok listing) = .ok registry ↔ load limits path (.ok entries) = .ok registry := by
  refine ⟨fun loadable => ?_, fun refused => ?_, fun listing h registry => ?_⟩
  · rcases load_cases limits path entries with ⟨-, loaded⟩ | ⟨not, -⟩
    · exact ⟨_, loaded, holds_register distinct loadable.admitted⟩
    · exact absurd loadable not
  · rcases load_cases limits path entries with ⟨loadable, -⟩ | ⟨-, fails⟩
    · exact absurd loadable refused
    · exact fails
  · rcases load_cases limits path entries with ⟨loadable, loaded⟩ | ⟨not, reason, fails⟩
    · rcases load_cases limits path listing with ⟨-, also⟩ | ⟨not, -⟩
      · rw [loaded, also, register_perm distinct h]
      · exact absurd (loadable.of_perm h) not
    · rcases load_cases limits path listing with ⟨loadable, -⟩ | ⟨-, other, also⟩
      · exact absurd (loadable.of_perm h.symm) not
      · simp [fails, also]

/-- Two schemas of which one is as large as allowed, next to a directory and a link that do not matter.
With room for one schema less nothing is loaded. -/
theorem load_settled_by_entries_two_schemas :
    let limits : LoadLimits := ⟨2, 4⟩
    let entries : List Entry :=
      [⟨"b" ++ suffix, .file (Utf8.encode "true")⟩, ⟨"x" ++ suffix, .directory⟩, ⟨"notes", .link⟩,
        ⟨"a" ++ suffix, .file (Utf8.encode "{}")⟩]
    (entries.map Entry.name).Nodup ∧ Loadable limits 0 entries ∧ ¬ Loadable ⟨1, 4⟩ 0 entries ∧
      (∃ registry, load limits "/schemas" (.ok entries) = .ok registry ∧
        load limits "/schemas" (.ok entries.reverse) = .ok registry ∧
        registry.get? "b" = some { id := "b", subject := "b", version := "1", content := "true" } ∧
        registry.get? "x" = none ∧ registry.entries.length = 2) ∧
      ∃ reason, load ⟨1, 4⟩ "/schemas" (.ok entries) = .error (.loadFailed reason) := by
  intro limits entries
  have distinct : (entries.map Entry.name).Nodup := by decide
  have loadable : Loadable limits 0 entries := by
    refine ⟨fun entry member => ?_, by decide⟩
    simp only [entries, List.mem_cons, List.not_mem_nil, or_false] at member
    rcases member with rfl | rfl | rfl | rfl
    · exact admitted_file (by decide) (by decide)
    · exact admitted_directory limits _
    · exact admitted_of_stem?_eq_none (by decide)
    · exact admitted_file (by decide) (by decide)
  have full : ¬ Loadable ⟨1, 4⟩ 0 entries := fun loadable =>
    absurd loadable.count (by decide)
  obtain ⟨loads, -, reordered⟩ := load_settled_by_entries limits "/schemas" entries distinct
  obtain ⟨registry, loaded, holds⟩ := loads loadable
  refine ⟨distinct, loadable, full, ⟨registry, loaded, ?_, ?_, ?_, holds.size⟩,
    (load_settled_by_entries ⟨1, 4⟩ "/schemas" entries distinct).2.1 full⟩
  · exact (reordered entries.reverse (List.reverse_perm entries) registry).2 loaded
  · exact (holds.get?_iff "b" _).2 ⟨"true", by simp [entries], rfl⟩
  · refine Option.eq_none_iff_forall_ne_some.2 fun schema found => ?_
    obtain ⟨text, member, -⟩ := (holds.get?_iff "x" schema).1 found
    simp [entries, suffix] at member

end SchemaGate.SchemaDirectory

import Mathlib
import SchemaGate.Gate.Configuration
import SchemaGate.Gate.Failure
import SchemaGate.Proofs.Json.Shape

/-!
# Configurations as they are written

A configuration, a source or a failure is read back from its own text.  Main statement: nothing of it
is lost, whatever its strings are and whichever options have a value, and an option that has none is
told apart from one that is empty.
-/

namespace SchemaGate

open Shape

theorem lookup_nameIn {α : Type} [DecidableEq α] {names : List (String × α)}
    (distinct : (names.map Prod.fst).Nodup) {a : α} (named : a ∈ names.map Prod.snd) :
    names.lookup (nameIn names a) = some a := by
  obtain ⟨entry, member, rfl⟩ := List.mem_map.1 named
  cases found : names.find? fun other => other.2 = entry.2 with
  | none =>
    have different := List.find?_eq_none.1 found entry member
    simp at different
  | some first =>
    have same : first.2 = entry.2 := by simpa using List.find?_some found
    have name : nameIn names entry.2 = first.1 := by rw [nameIn, found]; rfl
    rw [name, ← same]
    exact (lookup_eq_some_iff_mem distinct).2 (List.mem_of_find?_eq_some found)

section Stores

variable {α β : Type} {fields : List (Shape.Field α)} {a last : α} {list : List (String × Json)}
  {levels : Nat} {name : String} {read : Reader β}

theorem Shape.Stores.field {needed : Bool} {store : β → α → α} {v : Json} {b : β}
    (reads : Reads read v b levels) (others : Stores levels fields (store b a) list last) :
    Stores levels (Shape.field name needed read store :: fields) a ((name, v) :: list) last :=
  .given (f := Shape.field name needed read store) (reads_field name needed store reads) others

theorem Shape.Stores.option {store : Option β → α → α} {toJson : β → Json} (b? : Option β)
    (reads : ∀ b, Reads read (toJson b) b levels) (present : ∀ b, Present (toJson b))
    (unset : store none a = a) (others : Stores levels fields (store b? a) list last) :
    Stores levels (Shape.field name false (optional read) store :: fields) a
      (memberOf name (b?.map toJson) ++ list) last := by
  cases b? with
  | none =>
    rw [unset] at others
    exact .left rfl others
  | some b => exact .field (reads_optional (present b) (reads b)) others

end Stores

theorem SchemaSource.reads_toJson (source : SchemaSource) :
    Reads SchemaSource.read source.toJson source 1 := by
  cases source with
  | inline content =>
    have chosen : [(inlineName, inlineShape), (registryName, registryShape)].lookup inlineName =
        some inlineShape := (lookup_eq_some_iff_mem (by decide)).2 (by simp)
    exact reads_tagged _ [("staticSchema", content)] chosen rfl (by simp [tag])
  | registry resource mapping =>
    have chosen : [(inlineName, inlineShape), (registryName, registryShape)].lookup registryName =
        some registryShape := (lookup_eq_some_iff_mem (by decide)).2 (by simp)
    exact reads_tagged _ [("resourceName", resource), ("schemaMapping", mapping)] chosen rfl
      (by simp [tag])

theorem SchemaSource.present_toJson (source : SchemaSource) : Present source.toJson := by
  cases source <;> exact present_object _

theorem PublishHandling.reads_toJson (h : PublishHandling) :
    Reads PublishHandling.read h.toJson h 1 := by
  have strategy : publishStrategies.lookup (nameIn publishStrategies h.strategy) = some h.strategy :=
    lookup_nameIn (by decide) (by cases h.strategy; decide)
  exact reads_record (by decide) (.field (reads_choice strategy) (.nil _))

theorem SubscribeHandling.reads_toJson (h : SubscribeHandling) :
    Reads SubscribeHandling.read h.toJson h 1 := by
  have strategy :
      subscribeStrategies.lookup (nameIn subscribeStrategies h.strategy) = some h.strategy :=
    lookup_nameIn (by decide) (by cases h.strategy <;> decide)
  refine reads_record (by decide) (.field (reads_choice strategy) ?_)
  rw [← List.append_nil (memberOf "headerName" _)]
  exact .option h.headerName? reads_string present_string rfl (.nil _)

theorem BrokerHandling.reads_toJson (h : BrokerHandling) :
    Reads BrokerHandling.read h.toJson h 2 := by
  refine reads_record (by decide) ?_
  rw [← List.append_nil (memberOf "onSubscribe" _)]
  refine .option h.onPublish? PublishHandling.reads_toJson (fun h => present_object _) rfl ?_
  exact .option h.onSubscribe? SubscribeHandling.reads_toJson (fun h => present_object _) rfl (.nil _)

theorem Configuration.reads_toJson (c : Configuration) :
    Reads Configuration.read c.toJson c 3 := by
  have scope : scopes.lookup (nameIn scopes c.scope) = some c.scope :=
    lookup_nameIn (by decide) (by cases c.scope <;> decide)
  refine reads_record (by decide) ?_
  simp only [List.append_assoc, List.cons_append, List.nil_append]
  refine .option c.source? (fun source => source.reads_toJson.mono (by decide))
    SchemaSource.present_toJson rfl ?_
  refine .option c.schema? reads_string present_string rfl ?_
  refine .field (reads_bool c.validateUnchecked) ?_
  refine .field (reads_bool c.deepCheck) ?_
  refine .field (reads_bool c.straightRespondMode) ?_
  refine .option c.errorMessage? reads_string present_string rfl ?_
  refine .option c.handling? BrokerHandling.reads_toJson (fun h => present_object _) rfl ?_
  exact .field (reads_choice scope) (.nil _)

theorem Failure.reads_toJson (failure : Failure) :
    Reads Failure.read failure.toJson failure 1 :=
  reads_record (by decide)
    (.field (reads_uint16 failure.statusCode) (.field (reads_string failure.key)
      (.field (reads_string failure.message) (.field (reads_string failure.contentType) (.nil _)))))

/-- Configurations, sources and failures are each read back from the text that is written for them, with
every option as it was: without a value, with one, or with an empty one.  A text that is accepted as a
configuration may be replaced by what is written for the configuration. -/
theorem parse_written :
    (∀ c : Configuration, Configuration.parse (Utf8.encode c.toJson.print) = .ok c) ∧
      (∀ source : SchemaSource,
        SchemaSource.parse (Utf8.encode source.toJson.print) = .ok source) ∧
      (∀ failure : Failure, Failure.parse (Utf8.encode failure.toJson.print) = .ok failure) ∧
      ∀ text : Bytes, ((Configuration.parse text).bind fun c =>
        Configuration.parse (Utf8.encode c.toJson.print)) = Configuration.parse text := by
  have configuration (c : Configuration) :
      Configuration.parse (Utf8.encode c.toJson.print) = .ok c := by
    have read : Json.whole Configuration.read (Utf8.encode c.toJson.print) = .ok c :=
      Json.whole_of_reads c.reads_toJson (by decide)
    rw [Configuration.parse, read]
  refine ⟨configuration, fun source => ?_, fun failure => ?_, fun text => ?_⟩
  · exact Json.whole_of_reads source.reads_toJson (by decide)
  · exact Json.whole_of_reads failure.reads_toJson (by decide)
  · cases accepted : Configuration.parse text with
    | error fault => rfl
    | ok c => exact configuration c

example :
    let text := "\x7b\"schema\": null, \"nativeErrorHandling\": \x7b\x7d\x7d"
    let c : Configuration := { handling? := some {} }
    let written := "\x7b\"validateUnchecked\":false,\"deepCheck\":false," ++
      "\"straightRespondMode\":false,\"nativeErrorHandling\":\x7b\x7d," ++
      "\"scope\":\"REQUEST_CONTENT\"\x7d"
    Configuration.parse (Utf8.encode text) = .ok c ∧ c.toJson.print = written := by
  decide +kernel

end SchemaGate

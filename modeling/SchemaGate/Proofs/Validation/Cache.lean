import Mathlib
import SchemaGate.Rules.System
import SchemaGate.Validation.Engine

/-!
# What an engine keeps

An engine keeps the compiled form of one static schema.  Main statement: over any run of calls it
answers as if it kept nothing, and what it keeps is fixed by the first call that has something to keep.
-/

namespace SchemaGate.ValidationEngine

open RuleSystem

section Rules

variable [RuleSystem]

/-- The call leaves something to keep: its schema is static and compiles, and its payload is JSON. -/
structure Fills (schema : Schema) (payload : Bytes) : Prop where
  isStatic : schema.isStatic
  isJson : ∃ value, Json.parse payload = .ok value
  compiles : ∃ document program, schema.document = .ok document ∧ compile document = .ok program

/-- The answers to calls one after the other, and the engine after the last. -/
def run (engine : ValidationEngine) :
    List (Schema × Bytes) → List (Except SchemaError Report) × ValidationEngine
  | [] => ([], engine)
  | (schema, payload) :: calls =>
    let (answer, next) := engine.validate schema payload
    let (answers, last) := next.run calls
    (answer :: answers, last)

theorem compile_of_cached? {engine : ValidationEngine} {schema : Schema} {document : Json}
    {program : Program} (hdocument : schema.document = .ok document)
    (h : engine.cached? schema = some program) : compile document = .ok program := by
  unfold cached? at h
  split at h
  · next kept _ =>
    split at h
    · next same =>
      obtain rfl := Option.some.inj h
      obtain ⟨found, hfound, hcompile⟩ := kept.compiles
      rw [same.2, ← schema.document_eq_readContent, hdocument] at hfound
      obtain rfl := Except.ok.inj hfound
      exact hcompile
    · simp at h
  · simp at h

theorem isSome_cache?_of_cached? {engine : ValidationEngine} {schema : Schema} {program : Program}
    (h : engine.cached? schema = some program) : engine.cache?.isSome := by
  unfold cached? at h
  split at h
  · next kept => simp [kept]
  · simp at h

theorem keep_of_some {engine : ValidationEngine} {kept : CompiledSchema}
    (h : engine.cache? = some kept) (schema : Schema) (program : Program) (compiles) :
    engine.keep schema program compiles = engine := by
  rw [keep, if_neg]
  simp [h]

theorem judge_of_error {engine : ValidationEngine} {schema : Schema} {document : Json}
    {error : String} (described : schema.document = .ok document)
    (h : compile document = .error error) (payload : Json) :
    engine.judge schema document payload described = (engine.reject schema error, engine) := by
  unfold judge
  split
  · next program kept => simp [compile_of_cached? described kept] at h
  · split
    · next hcompile =>
      obtain rfl := Except.error.inj (h.symm.trans hcompile)
      rfl
    · next hcompile => simp [h] at hcompile

theorem judge_of_ok {engine : ValidationEngine} {schema : Schema} {document : Json}
    {program : Program} (described : schema.document = .ok document)
    (h : compile document = .ok program) (payload : Json) :
    engine.judge schema document payload described =
      (.ok (engine.report schema program payload),
        engine.keep schema program ⟨document, described, h⟩) := by
  unfold judge
  split
  · next found hfound =>
    obtain rfl := Except.ok.inj ((compile_of_cached? described hfound).symm.trans h)
    obtain ⟨kept, hkept⟩ := Option.isSome_iff_exists.1 (isSome_cache?_of_cached? hfound)
    rw [keep_of_some hkept]
  · split
    · next hcompile => simp [h] at hcompile
    · next hcompile =>
      obtain rfl := Except.ok.inj (h.symm.trans hcompile)
      rfl

theorem validate_of_invalid_schema {schema : Schema} {error : SchemaError}
    (h : schema.document = .error error) (engine : ValidationEngine) (payload : Bytes) :
    engine.validate schema payload = (.error error, engine) := by
  unfold validate
  split
  · next hdocument => rw [Except.error.inj (h.symm.trans hdocument)]
  · next hdocument => simp [h] at hdocument

theorem validate_of_invalid_payload {schema : Schema} {document : Json} {payload : Bytes}
    {error : JsonError} (hdocument : schema.document = .ok document)
    (h : Json.parse payload = .error error) (engine : ValidationEngine) :
    engine.validate schema payload = (.error (.invalidPayload error), engine) := by
  unfold validate
  split
  · next hfault => simp [hdocument] at hfault
  · rw [h]

theorem validate_of_json {schema : Schema} {document value : Json} {payload : Bytes}
    (hdocument : schema.document = .ok document) (h : Json.parse payload = .ok value)
    (engine : ValidationEngine) :
    engine.validate schema payload = engine.judge schema document value hdocument := by
  unfold validate
  split
  · next hfault => simp [hdocument] at hfault
  · next found hfound =>
    obtain rfl := Except.ok.inj (hdocument.symm.trans hfound)
    rw [h]

theorem validate_fst (engine : ValidationEngine) (schema : Schema) (payload : Bytes) :
    (engine.validate schema payload).1 =
      ((ofOptions engine.options).validate schema payload).1 := by
  cases hdocument : schema.document with
  | error error => simp only [validate_of_invalid_schema hdocument]
  | ok document =>
    cases hpayload : Json.parse payload with
    | error error => simp only [validate_of_invalid_payload hdocument hpayload]
    | ok value =>
      cases hcompile : compile document with
      | error error => simp only [validate_of_json hdocument hpayload,
          judge_of_error hdocument hcompile, reject, ofOptions]
      | ok program => simp only [validate_of_json hdocument hpayload,
          judge_of_ok hdocument hcompile, report, ofOptions]

theorem validate_snd_of_fills {schema : Schema} {payload : Bytes} (h : Fills schema payload)
    (engine : ValidationEngine) :
    ∃ program compiles, (engine.validate schema payload).2 = engine.keep schema program compiles := by
  obtain ⟨value, hpayload⟩ := h.isJson
  obtain ⟨document, program, hdocument, hcompile⟩ := h.compiles
  rw [validate_of_json hdocument hpayload, judge_of_ok hdocument hcompile]
  exact ⟨program, ⟨document, hdocument, hcompile⟩, rfl⟩

theorem validate_snd_of_not_fills {schema : Schema} {payload : Bytes} (h : ¬ Fills schema payload)
    (engine : ValidationEngine) : (engine.validate schema payload).2 = engine := by
  cases hdocument : schema.document with
  | error error => rw [validate_of_invalid_schema hdocument]
  | ok document =>
    cases hpayload : Json.parse payload with
    | error error => rw [validate_of_invalid_payload hdocument hpayload]
    | ok value =>
      rw [validate_of_json hdocument hpayload]
      cases hcompile : compile document with
      | error error => rw [judge_of_error hdocument hcompile]
      | ok program =>
        have registered : ¬ schema.isStatic := fun static =>
          h ⟨static, ⟨value, hpayload⟩, document, program, hdocument, hcompile⟩
        rw [judge_of_ok hdocument hcompile, keep, if_neg fun both => registered both.1]

@[simp] theorem options_keep (engine : ValidationEngine) (schema : Schema) (program : Program)
    (compiles) : (engine.keep schema program compiles).options = engine.options := by
  unfold keep
  split <;> rfl

@[simp] theorem options_validate (engine : ValidationEngine) (schema : Schema) (payload : Bytes) :
    (engine.validate schema payload).2.options = engine.options := by
  by_cases fills : Fills schema payload
  · obtain ⟨program, compiles, h⟩ := validate_snd_of_fills fills engine
    rw [h, options_keep]
  · rw [validate_snd_of_not_fills fills]

theorem cache?_validate_of_some {engine : ValidationEngine} {kept : CompiledSchema}
    (h : engine.cache? = some kept) (schema : Schema) (payload : Bytes) :
    (engine.validate schema payload).2.cache? = some kept := by
  by_cases fills : Fills schema payload
  · obtain ⟨program, compiles, hnext⟩ := validate_snd_of_fills fills engine
    rw [hnext, keep_of_some h, h]
  · rw [validate_snd_of_not_fills fills, h]

theorem content_validate_of_fills {engine : ValidationEngine} (empty : engine.cache? = none)
    {schema : Schema} {payload : Bytes} (fills : Fills schema payload) :
    (engine.validate schema payload).2.cache?.map CompiledSchema.content = some schema.content := by
  obtain ⟨program, compiles, hnext⟩ := validate_snd_of_fills fills engine
  rw [hnext, keep, if_pos ⟨fills.isStatic, by rw [empty]; rfl⟩]
  rfl

theorem run_cons (engine : ValidationEngine) (schema : Schema) (payload : Bytes)
    (calls : List (Schema × Bytes)) :
    engine.run ((schema, payload) :: calls) =
      ((engine.validate schema payload).1 :: ((engine.validate schema payload).2.run calls).1,
        ((engine.validate schema payload).2.run calls).2) := rfl

theorem run_fst (engine : ValidationEngine) (calls : List (Schema × Bytes)) :
    (engine.run calls).1 =
      calls.map fun call => ((ofOptions engine.options).validate call.1 call.2).1 := by
  induction calls generalizing engine with
  | nil => rfl
  | cons call calls ih =>
    obtain ⟨schema, payload⟩ := call
    rw [run_cons, ih, options_validate, validate_fst, List.map_cons]

theorem run_append_snd (engine : ValidationEngine) (before after : List (Schema × Bytes)) :
    (engine.run (before ++ after)).2 = ((engine.run before).2.run after).2 := by
  induction before generalizing engine with
  | nil => rfl
  | cons call before ih =>
    obtain ⟨schema, payload⟩ := call
    rw [List.cons_append, run_cons, run_cons, ih]

theorem run_snd_of_not_fills (engine : ValidationEngine) (calls : List (Schema × Bytes))
    (h : ∀ call ∈ calls, ¬ Fills call.1 call.2) : (engine.run calls).2 = engine := by
  induction calls with
  | nil => rfl
  | cons call calls ih =>
    obtain ⟨schema, payload⟩ := call
    rw [run_cons, validate_snd_of_not_fills (h (schema, payload) (by simp)),
      ih fun call hcall => h call (by simp [hcall])]

theorem cache?_run_of_some {engine : ValidationEngine} {kept : CompiledSchema}
    (h : engine.cache? = some kept) (calls : List (Schema × Bytes)) :
    (engine.run calls).2.cache? = some kept := by
  induction calls generalizing engine with
  | nil => exact h
  | cons call calls ih =>
    obtain ⟨schema, payload⟩ := call
    rw [run_cons]
    exact ih (cache?_validate_of_some h schema payload)

/-- Every call of a run is answered as a new engine would answer it.  Nothing is kept while no call has
anything to keep; the first that has is kept from, and stays so whatever follows. -/
theorem run_transparent (options : ValidationOptions) (calls : List (Schema × Bytes)) :
    ((ofOptions options).run calls).1 =
        calls.map (fun call => ((ofOptions options).validate call.1 call.2).1) ∧
      ((∀ call ∈ calls, ¬ Fills call.1 call.2) →
        ((ofOptions options).run calls).2.cache? = none) ∧
      ∀ before schema payload after, calls = before ++ (schema, payload) :: after →
        (∀ call ∈ before, ¬ Fills call.1 call.2) → Fills schema payload →
          ((ofOptions options).run calls).2.cache?.map CompiledSchema.content =
            some schema.content := by
  refine ⟨run_fst _ calls, fun idle => ?_, ?_⟩
  · rw [run_snd_of_not_fills _ calls idle]
    rfl
  · rintro before schema payload after rfl idle fills
    rw [run_append_snd, run_snd_of_not_fills _ before idle, run_cons]
    have empty : (ofOptions options).cache? = none := rfl
    obtain ⟨kept, hkept, hcontent⟩ :=
      Option.map_eq_some_iff.1 (content_validate_of_fills empty fills)
    rw [cache?_run_of_some hkept after, Option.map_some, hcontent]

end Rules

/-- A registry schema and a payload that is not JSON leave nothing to keep; a static schema then does,
and another after it changes nothing. -/
theorem run_transparent_four_calls :
    let registered : Schema := { id := "1", subject := "s", version := "1", content := "true" }
    let static : Schema :=
      { id := "static", subject := "static", version := "1", content := "true"
        parsed? := some (.bool true), parsed_eq := by intro document h; cases h; rfl }
    let other : Schema :=
      { id := "static", subject := "static", version := "1", content := "false"
        parsed? := some (.bool false), parsed_eq := by intro document h; cases h; rfl }
    let calls := [(registered, Utf8.encode "1"), (static, Utf8.encode "x"), (static, Utf8.encode "2"),
      (other, Utf8.encode "3")]
    Schema.static? "true" = .ok static ∧ ¬ Fills registered (Utf8.encode "1") ∧
      ¬ Fills static (Utf8.encode "x") ∧ Fills static (Utf8.encode "2") ∧
      ((ofOptions {}).run calls).1 =
        calls.map (fun call => ((ofOptions {}).validate call.1 call.2).1) ∧
      ((ofOptions {}).run calls).2.cache?.map CompiledSchema.content = some "true" := by
  intro registered static other calls
  have unkept : ¬ Fills registered (Utf8.encode "1") := fun h => Bool.false_ne_true h.isStatic
  have unread : ¬ Fills static (Utf8.encode "x") := by
    intro h
    obtain ⟨value, hvalue⟩ := h.isJson
    have fault : ∃ error, Json.parse (Utf8.encode "x") = .error error := ⟨_, rfl⟩
    obtain ⟨error, herror⟩ := fault
    simp [hvalue] at herror
  have fills : Fills static (Utf8.encode "2") :=
    ⟨rfl, ⟨_, rfl⟩, .bool true, _, rfl, rfl⟩
  have transparent := run_transparent {} calls
  refine ⟨rfl, unkept, unread, fills, transparent.1, ?_⟩
  refine transparent.2.2 [(registered, _), (static, _)] static _ [(other, _)] rfl ?_ fills
  intro call hcall
  rcases List.mem_cons.1 hcall with rfl | hcall
  · exact unkept
  · obtain rfl := List.mem_singleton.1 hcall
    exact unread

end SchemaGate.ValidationEngine

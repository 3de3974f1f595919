import SchemaGate.Proofs.Gate.Recording
import SchemaGate.Proofs.Gate.Subscribe

/-!
# What a configuration has to have

A configuration that cannot be run is refused when the policy is made from it.  Main statement: which
configurations those are, and that a policy, once made, has no fault of its configuration left to report but
that a broker surface is called which has no handling.
-/

namespace SchemaGate

theorem trim_eq_empty_iff {text : String} : trim text = "" ↔ Blank text = true := by
  have chars : trimChars text.toList = [] ↔ text.toList.all isBlank = true := by
    refine ⟨fun h => ?_, trimChars_of_blank⟩
    have kept : ∀ c ∈ text.toList.dropWhile isBlank, isBlank c = true := by
      simpa [trimChars, List.dropWhile_eq_nil_iff] using h
    -- The first character that is kept from the front would not be blank.
    have none : text.toList.dropWhile isBlank = [] := by
      cases found : text.toList.dropWhile isBlank with
      | nil => rfl
      | cons c rest =>
        have solid := List.head?_dropWhile_not isBlank text.toList
        simp [found, kept c (by simp [found])] at solid
    simpa [List.dropWhile_eq_nil_iff] using none
  rw [trim, Blank, ← chars]
  simp

/-- A schema can be had from the source: from a text that is JSON, or from a registry that has a name, under
subjects for which there is an expression. -/
inductive SchemaSource.Usable : SchemaSource → Prop where
  | inline {content : String} {document : Json}
      (json : Json.parse (Utf8.encode content) = .ok document) : Usable (.inline content)
  | registry {resource mapping : String} (named : Blank resource = false)
      (mapped : Blank mapping = false) : Usable (.registry resource mapping)

/-- A configuration has a source, for which a bare schema stands only if there is no other, and the source
can be used; records are only marked under a name. -/
structure Configuration.Runnable (c : Configuration) : Prop where
  source : (∃ source, c.source? = some source ∧ source.Usable) ∨
    (c.source? = none ∧ ∃ content, c.schema? = some content ∧ (SchemaSource.inline content).Usable)
  marker : ∀ handling, c.onSubscribe? = some handling → handling.strategy = .addRecordHeader →
    ∃ name, handling.headerName? = some name ∧ Blank name = false

theorem exists_static?_iff {content : String} :
    (∃ schema, Schema.static? content = .ok schema) ↔
      ∃ document, Json.parse (Utf8.encode content) = .ok document := by
  unfold Schema.static?
  split
  · next document h => simp [h]
  · next error h => simp [h]

theorem exists_ofSource_iff {source : SchemaSource} :
    (∃ resolver, Resolver.ofSource source = .ok resolver) ↔ source.Usable := by
  cases source with
  | inline content =>
    simp only [Resolver.ofSource, bind_eq_ok_iff, Except.ok.injEq]
    constructor
    · rintro ⟨resolver, schema, made, -⟩
      obtain ⟨document, json⟩ := exists_static?_iff.1 ⟨schema, made⟩
      exact .inline json
    · rintro ⟨json⟩
      obtain ⟨schema, made⟩ := exists_static?_iff.2 ⟨_, json⟩
      exact ⟨_, schema, made, rfl⟩
  | registry resource mapping =>
    simp only [Resolver.ofSource, bind_eq_ok_iff, Except.ok.injEq, RegistryRoute.ofNames]
    constructor
    · rintro ⟨resolver, route, made, -⟩
      split at made
      · cases made
      · next named =>
        split at made
        · cases made
        · next mapped => exact .registry (Bool.eq_false_iff.2 named) (Bool.eq_false_iff.2 mapped)
    · intro usable
      cases usable with
      | registry named mapped =>
        exact ⟨_, _, by rw [if_neg (by simp [named]), if_neg (by simp [mapped])], rfl⟩

theorem exists_ofHandling_iff {handling : SubscribeHandling} :
    (∃ handler, SubscribeHandler.ofHandling handling = .ok handler) ↔
      (handling.strategy = .addRecordHeader →
        ∃ name, handling.headerName? = some name ∧ Blank name = false) := by
  constructor
  · rintro ⟨handler, made⟩ marks
    obtain ⟨name, set, nonempty, -⟩ := exists_headerName_of_ofHandling marks made
    exact ⟨name, set, Bool.eq_false_iff.2 fun blank => nonempty (trim_eq_empty_iff.2 blank)⟩
  · intro named
    cases strategy : handling.strategy with
    | invalidatePartition => exact ⟨_, by rw [SubscribeHandler.ofHandling, strategy]⟩
    | addRecordHeader =>
      obtain ⟨name, set, solid⟩ := named strategy
      have nonempty : ¬ (trim name).isEmpty = true := by
        rw [String.isEmpty_iff, trim_eq_empty_iff, solid]
        exact Bool.false_ne_true
      refine ⟨.addRecordHeader (trim name), ?_⟩
      simp only [SubscribeHandler.ofHandling, strategy, set, Option.getD_some, if_neg nonempty]

theorem isConfiguration_of_ofHandling {handling : SubscribeHandling} {error : PolicyError}
    (h : SubscribeHandler.ofHandling handling = .error error) : error.isConfiguration = true := by
  unfold SubscribeHandler.ofHandling at h
  split at h
  · cases h
  · dsimp only at h
    split at h
    · rw [← Except.error.inj h]
      rfl
    · cases h

theorem Configuration.effectiveSource_eq_ok_iff {c : Configuration} {source : SchemaSource} :
    c.effectiveSource = .ok source ↔ c.source? = some source ∨
      (c.source? = none ∧ ∃ content, c.schema? = some content ∧ .inline content = source) := by
  unfold effectiveSource
  split <;> simp_all

namespace Policy

theorem exists_mapM_ofHandling_iff {handling? : Option SubscribeHandling} :
    (∃ handler?, handling?.mapM SubscribeHandler.ofHandling = .ok handler?) ↔
      ∀ handling, handling? = some handling →
        ∃ handler, SubscribeHandler.ofHandling handling = .ok handler := by
  cases handling? with
  | none => simp [pure, Except.pure]
  | some handling =>
    cases made : SubscribeHandler.ofHandling handling <;>
      simp [made, Functor.map, Except.map]

/-- A policy is made from a configuration exactly if it can be run. -/
theorem exists_ofConfiguration_iff {c : Configuration} :
    (∃ p, ofConfiguration c = .ok p) ↔ c.Runnable := by
  have steps : (∃ p, ofConfiguration c = .ok p) ↔
      (∃ source, c.effectiveSource = .ok source ∧ ∃ resolver, Resolver.ofSource source = .ok resolver) ∧
        ∃ handler?, c.onSubscribe?.mapM SubscribeHandler.ofHandling = .ok handler? := by
    simp only [ofConfiguration, bind_eq_ok_iff, mapError_eq_ok_iff]
    constructor
    · rintro ⟨p, source, chosen, resolver, resolved, handler?, handled, -⟩
      exact ⟨⟨source, chosen, resolver, resolved⟩, handler?, handled⟩
    · rintro ⟨⟨source, chosen, resolver, resolved⟩, handler?, handled⟩
      exact ⟨_, source, chosen, resolver, resolved, handler?, handled, rfl⟩
  simp only [steps, exists_ofSource_iff, exists_mapM_ofHandling_iff, exists_ofHandling_iff,
    Configuration.effectiveSource_eq_ok_iff]
  constructor
  · rintro ⟨⟨source, given | ⟨absent, content, bare, rfl⟩, usable⟩, marker⟩
    · exact ⟨.inl ⟨source, given, usable⟩, marker⟩
    · exact ⟨.inr ⟨absent, content, bare, usable⟩, marker⟩
  · rintro ⟨⟨source, given, usable⟩ | ⟨absent, content, bare, usable⟩, marker⟩
    · exact ⟨⟨source, .inl given, usable⟩, marker⟩
    · exact ⟨⟨_, .inr ⟨absent, content, bare, rfl⟩, usable⟩, marker⟩

theorem isConfiguration_of_ofConfiguration {c : Configuration} {error : PolicyError}
    (h : ofConfiguration c = .error error) : error.isConfiguration = true := by
  simp only [ofConfiguration, bind_eq_error_iff, mapError_eq_error_iff] at h
  rcases h with sourceless | ⟨source, -, ⟨cause, -, rfl⟩ | ⟨resolver, -, unmarked | ⟨handler?, -, made⟩⟩⟩
  · unfold Configuration.effectiveSource at sourceless
    split at sourceless
    · cases sourceless
    · cases sourceless
    · rw [← Except.error.inj sourceless]
      rfl
  · rfl
  · cases handling? : c.onSubscribe? with
    | none => simp [handling?, pure, Except.pure] at unmarked
    | some handling =>
      cases marked : SubscribeHandler.ofHandling handling with
      | ok handler => simp [handling?, marked, Functor.map, Except.map] at unmarked
      | error fault =>
        obtain rfl : fault = error := by
          simpa [handling?, marked, Functor.map, Except.map] using unmarked
        exact isConfiguration_of_ofHandling marked
  · cases made

end Policy

/-- The call is at a broker surface that the configuration has no handling for. -/
def Configuration.Unhandled (c : Configuration) : Call → Prop
  | .publish _ _ => c.onPublish? = none
  | .subscribe _ _ => c.onSubscribe? = none
  | _ => False

namespace Policy

variable {c : Configuration} {p : Policy}

theorem unhandled_of_idle? (built : BuiltFrom c p) {call : Call} {answer : Answer}
    (idle : p.idle? call = some answer) {error : PolicyError} (raised : answer.error? = some error) :
    c.Unhandled call ∧ ∃ reason, error = .configuration reason := by
  cases call with
  | body direction bytes => cases idle
  | message direction message => cases idle
  | content direction body =>
    obtain ⟨-, rfl⟩ : ¬ p.scope = direction ∧ Answer.content (.ok .skipped) = answer := by
      simpa [idle?] using idle
    cases raised
  | publish request message =>
    obtain ⟨unhandled, rfl⟩ : p.publish? = none ∧
        Answer.publish (.error (unconfigured "onPublish")) = answer := by
      simpa [idle?] using idle
    rw [built.publish?, Option.map_eq_none_iff] at unhandled
    exact ⟨unhandled, _, (Option.some.inj raised).symm⟩
  | subscribe response message =>
    obtain ⟨unhandled, rfl⟩ : p.subscribe? = none ∧
        Answer.subscribe (.error (unconfigured "onSubscribe")) response = answer := by
      simpa [idle?] using idle
    have absent : c.onSubscribe? = none := by
      refine Option.eq_none_iff_forall_ne_some.2 fun handling set => ?_
      obtain ⟨handler, -, handled⟩ := exists_handler_of_builtFrom built set
      simp [handled] at unhandled
    exact ⟨absent, _, (Option.some.inj raised).symm⟩

theorem Call.error?_passed (call : Call) : call.passed.error? = none := by
  cases call <;> rfl

theorem Call.error?_abandoned (call : Call) : call.abandoned.error? = some .cancelled := by
  cases call <;> rfl

theorem error_cases_of_accounts (built : BuiltFrom c p) {turn : Turn} (h : Accounts p turn)
    {error : PolicyError} (raised : turn.answer.error? = some error) :
    (∃ fault, error = .errorMessage fault) ∨ error = .cancelled ∨
      (c.Unhandled turn.call ∧ ∃ reason, error = .configuration reason) := by
  cases h with
  | refused ways =>
    cases ways with
    | reported kind => simp [Call.kind?_of_error? raised] at kind
    | unworded fails => exact .inl ⟨_, Option.some.inj (raised.symm.trans fails)⟩
    | straight => simp [Call.error?_passed] at raised
    | marked => cases raised
  | unheard | abandoned =>
    rw [Call.error?_abandoned] at raised
    exact .inr (.inl (Option.some.inj raised).symm)
  | valid => simp [Call.error?_passed] at raised
  | idle unused => exact .inr (.inr (unhandled_of_idle? built unused raised))

/-- A policy is made exactly from the configurations that can be run, and what is wrong with the others is
a fault of theirs.  Whatever calls a policy gets after that, for whatever hosts and in whatever session,
none of them ends in a fault of the schema or of the configuration's text, and in another fault of the
configuration only those at a broker surface without handling. -/
theorem faults_found_at_construction [RuleSystem] (c : Configuration) :
    ((∃ p, ofConfiguration c = .ok p) ↔ c.Runnable) ∧
    (∀ error, ofConfiguration c = .error error → error.isConfiguration = true) ∧
    ∀ p, ofConfiguration c = .ok p → ∀ happenings s,
      (p.run happenings s).1.length = (happenings.flatMap Happening.calls).length ∧
      ∀ call answer, (call, answer) ∈ (happenings.flatMap Happening.calls).zip (p.run happenings s).1 →
        ∀ error, answer.error? = some error →
          (∀ cause, error ≠ .schema cause) ∧ (∀ cause, error ≠ .json cause) ∧
            ∀ reason, error = .configuration reason → c.Unhandled call := by
  refine ⟨exists_ofConfiguration_iff, fun error => isConfiguration_of_ofConfiguration,
    fun p made happenings s => ?_⟩
  have built := builtFrom_of_ofConfiguration made
  -- The turns of the run pair each call with its answer, so one turn is all there is to look at.
  have recounts := recounts_history p happenings s
  rw [← recounts.calls, ← recounts.answers, List.length_map, List.length_map, List.zip_map']
  refine ⟨rfl, fun call answer member error raised => ?_⟩
  obtain ⟨turn, taken, same⟩ := List.mem_map.1 member
  obtain ⟨rfl, rfl⟩ := Prod.mk.inj same
  rcases error_cases_of_accounts built (recounts.accounts turn taken) raised with
    ⟨fault, rfl⟩ | rfl | ⟨unhandled, reason, rfl⟩
  · simp
  · simp
  · simp [unhandled]

/-- A schema that is no JSON is passed over for a registry, and a header has a name between blanks.  The
registry fails for want of a source and the failure cannot be worded, but only the record that is published
meets a fault of the configuration.  Another name, of blanks alone, is refused. -/
theorem faults_found_at_construction_failing_registry :
    let marking (name : String) : BrokerHandling := { onSubscribe? := some ⟨.addRecordHeader, some name⟩ }
    let c : Configuration :=
      { source? := some (.registry "schemas" "orders"), schema? := some "x", errorMessage? := some "\x7b"
        handling? := some (marking " X-Invalid ") }
    let d : Configuration := { c with handling? := some (marking " ") }
    let p : Policy :=
      { resolver := .lookup ⟨"schemas", "orders"⟩, options := {}, messageExpression? := some "\x7b"
        straightRespond := false, scope := .request, publish? := none
        subscribe? := some (.addRecordHeader "X-Invalid") }
    let failing : RegistryService := fun _ => .done (.error (.invalidSource "gone"))
    let host := Host.ofAttributes (NameMap.empty.insert "schemas" failing) .empty
    let record : Broker.Message := { topic := "a", partition := 0, offset := 3, content := [] }
    let publish : Call := .publish { topics := [] } record
    let happenings : List Happening :=
      [.call host publish, .call host (.body .request []), .cancel,
        .call host (.subscribe { topics := [] } record)]
    ofConfiguration c = .ok p ∧ c.Runnable ∧ ¬ d.Runnable ∧
      (∃ error, ofConfiguration d = .error error ∧ error.isConfiguration = true) ∧
      (p.run happenings {}).1 = [.publish (.error (unconfigured "onPublish")),
        .body (.error (.errorMessage (.invalidExpression "\x7b" (.unterminated 0)))),
        .subscribe (.error .cancelled) { topics := [] }] ∧
      c.Unhandled publish := by
  intro marking c d p failing host record publish happenings
  have made : ofConfiguration c = .ok p := by decide
  have refused : ofConfiguration d =
      .error (.configuration "ADD_RECORD_HEADER requires a headerName") := by decide
  have answers : (p.run happenings {}).1 = [.publish (.error (unconfigured "onPublish")),
      .body (.error (.errorMessage (.invalidExpression "\x7b" (.unterminated 0)))),
      .subscribe (.error .cancelled) { topics := [] }] := by decide +kernel
  obtain ⟨runnable, -, raised⟩ := faults_found_at_construction c
  obtain ⟨unrunnable, configured, -⟩ := faults_found_at_construction d
  have first : (publish, Answer.publish (.error (unconfigured "onPublish"))) ∈
      (happenings.flatMap Happening.calls).zip (p.run happenings {}).1 := by
    rw [answers]
    exact List.mem_cons_self
  refine ⟨made, runnable.1 ⟨p, made⟩, fun runs => ?_, ⟨_, refused, configured _ refused⟩, answers,
    ((raised p made happenings {}).2 publish _ first _ rfl).2.2 _ rfl⟩
  obtain ⟨other, others⟩ := unrunnable.2 runs
  simp [refused] at others

end Policy

end SchemaGate

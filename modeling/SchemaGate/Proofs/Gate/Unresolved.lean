import SchemaGate.Proofs.Gate.Agreement

/-!
# Schemas that cannot be resolved

A schema is sought in three stages: its registry, its name, the registry's answer.  Main statement: what
the search comes to, that it fails at the first stage that does, and that no payload goes through for which
it fails.
-/

namespace SchemaGate

section Search

variable {route : RegistryRoute} {resources : Resources} {evaluate : Evaluator} {error : SchemaError}

/-- The mapping names the subject, and the registry has that answer for it. -/
structure Answered (route : RegistryRoute) (resources : Resources) (evaluate : Evaluator)
    (subject : String) (answer : Except SchemaError (Option Schema)) : Prop where
  named : evaluate route.mapping = .ok (some subject)
  registered : ∃ service, resources.get? route.resource = some service ∧
    (service subject).result? = some answer

/-- The search for a schema fails so, each stage only after those before it have succeeded. -/
inductive Faults (route : RegistryRoute) (resources : Resources) (evaluate : Evaluator) :
    SchemaError → Prop where
  | noRegistry (unknown : resources.get? route.resource = none) :
      Faults route resources evaluate (.resourceNotFound route.resource)
  | invalidMapping {service : RegistryService} {fault : TemplateError}
      (known : resources.get? route.resource = some service)
      (invalid : evaluate route.mapping = .error fault) :
      Faults route resources evaluate (.nameUnresolved fault.message)
  | noName {service : RegistryService} (known : resources.get? route.resource = some service)
      (unset : evaluate route.mapping = .ok none) :
      Faults route resources evaluate
        (.nameUnresolved ("'" ++ route.mapping ++ "' produced no value"))
  | passedOn {subject : String} {error : SchemaError}
      (answered : Answered route resources evaluate subject (.error error))
      (unresolved : error.isUnresolved = true) : Faults route resources evaluate error
  | wrapped {subject : String} {error : SchemaError}
      (answered : Answered route resources evaluate subject (.error error))
      (other : error.isUnresolved = false) :
      Faults route resources evaluate (.lookupFailed error.message)
  | notRegistered {subject : String} (answered : Answered route resources evaluate subject (.ok none)) :
      Faults route resources evaluate (.schemaNotFound subject)

theorem isUnresolved_of_faults (h : Faults route resources evaluate error) :
    error.isUnresolved = true := by
  cases h with
  | passedOn answered unresolved => exact unresolved
  | _ => rfl

theorem result?_of_answered {subject : String} {answer : Except SchemaError (Option Schema)}
    (h : Answered route resources evaluate subject answer) :
    (route.resolve resources evaluate).result? = some (RegistryRoute.settle subject answer) := by
  obtain ⟨service, known, ends⟩ := h.registered
  simp only [RegistryRoute.resolve, known, RegistryRoute.subject, h.named, Awaited.map, ends,
    Option.map_some]

theorem result?_of_faults (h : Faults route resources evaluate error) :
    (route.resolve resources evaluate).result? = some (.error error) := by
  cases h with
  | noRegistry unknown => simp only [RegistryRoute.resolve, unknown]; rfl
  | invalidMapping known invalid =>
    simp only [RegistryRoute.resolve, known, RegistryRoute.subject, invalid]
    rfl
  | noName known unset =>
    simp only [RegistryRoute.resolve, known, RegistryRoute.subject, unset]
    rfl
  | passedOn answered unresolved =>
    rw [result?_of_answered answered, RegistryRoute.settle, if_pos unresolved]
  | wrapped answered other =>
    rw [result?_of_answered answered, RegistryRoute.settle, if_neg (by simp [other])]
  | notRegistered answered => rw [result?_of_answered answered, RegistryRoute.settle]

/-- The search fails, or a registry is asked and has the schema, or has no answer at all. -/
theorem resolve_cases (route : RegistryRoute) (resources : Resources) (evaluate : Evaluator) :
    (∃ error, Faults route resources evaluate error) ∨
    (∃ subject schema, Answered route resources evaluate subject (.ok (some schema))) ∨
    ∃ service subject, resources.get? route.resource = some service ∧
      evaluate route.mapping = .ok (some subject) ∧ (service subject).result? = none := by
  cases known : resources.get? route.resource with
  | none => exact .inl ⟨_, .noRegistry known⟩
  | some service =>
    cases value : evaluate route.mapping with
    | error fault => exact .inl ⟨_, .invalidMapping known value⟩
    | ok subject? =>
      cases subject? with
      | none => exact .inl ⟨_, .noName known value⟩
      | some subject =>
        cases ends : (service subject).result? with
        | none => exact .inr (.inr ⟨service, subject, rfl, rfl, ends⟩)
        | some answer =>
          have answered : Answered route resources evaluate subject answer :=
            ⟨value, service, known, ends⟩
          rcases answer with error | schema?
          · cases unresolved : error.isUnresolved with
            | true => exact .inl ⟨_, .passedOn answered unresolved⟩
            | false => exact .inl ⟨_, .wrapped answered unresolved⟩
          · cases schema? with
            | none => exact .inl ⟨_, .notRegistered answered⟩
            | some schema => exact .inr (.inl ⟨subject, schema, answered⟩)

theorem result?_of_endless {service : RegistryService} {subject : String}
    (known : resources.get? route.resource = some service)
    (named : evaluate route.mapping = .ok (some subject)) (endless : (service subject).result? = none) :
    (route.resolve resources evaluate).result? = none := by
  simp only [RegistryRoute.resolve, known, RegistryRoute.subject, named, Awaited.map, endless,
    Option.map_none]

theorem result?_resolve_eq_ok_iff {schema : Schema} :
    (route.resolve resources evaluate).result? = some (.ok schema) ↔
      ∃ subject, Answered route resources evaluate subject (.ok (some schema)) := by
  refine ⟨fun h => ?_, fun ⟨subject, answered⟩ => result?_of_answered answered⟩
  rcases resolve_cases route resources evaluate with
    ⟨error, fails⟩ | ⟨subject, found, answered⟩ | ⟨service, subject, known, named, endless⟩
  · simp [result?_of_faults fails] at h
  · rw [result?_of_answered answered, RegistryRoute.settle] at h
    obtain rfl := Except.ok.inj (Option.some.inj h)
    exact ⟨subject, answered⟩
  · simp [result?_of_endless known named endless] at h

theorem result?_resolve_eq_error_iff :
    (route.resolve resources evaluate).result? = some (.error error) ↔
      Faults route resources evaluate error := by
  refine ⟨fun h => ?_, result?_of_faults⟩
  rcases resolve_cases route resources evaluate with
    ⟨first, fails⟩ | ⟨subject, found, answered⟩ | ⟨service, subject, known, named, endless⟩
  · rw [result?_of_faults fails] at h
    obtain rfl := Except.error.inj (Option.some.inj h)
    exact fails
  · simp [result?_of_answered answered, RegistryRoute.settle] at h
  · simp [result?_of_endless known named endless] at h

theorem result?_resolve_eq_none_iff :
    (route.resolve resources evaluate).result? = none ↔
      ∃ service subject, resources.get? route.resource = some service ∧
        evaluate route.mapping = .ok (some subject) ∧ (service subject).result? = none := by
  refine ⟨fun h => ?_, fun ⟨service, subject, known, named, endless⟩ =>
    result?_of_endless known named endless⟩
  rcases resolve_cases route resources evaluate with
    ⟨error, fails⟩ | ⟨subject, found, answered⟩ | endless
  · simp [result?_of_faults fails] at h
  · simp [result?_of_answered answered] at h
  · exact endless

end Search

namespace Policy

variable {p : Policy} {c : Call} {refusal : Refusal} {answer : Answer}

theorem ne_passed_of_refuses (h : Refuses p c refusal answer) (unresolved : refusal.unresolved = true) :
    answer ≠ c.passed := by
  intro through
  cases h with
  | reported kind =>
    rw [through, Call.kind?_passed] at kind
    cases kind
  | unworded fails =>
    rw [through] at fails
    cases c <;> cases fails
  | straight mode phased allowed resolved => simp [unresolved] at resolved
  | @marked response message name marks fetch =>
    subst fetch
    have same : message.putHeader name (Utf8.encode refusal.detail) = message := by
      simpa only [Call.passed, Answer.subscribe.injEq, Except.ok.injEq,
        SubscribeOutcome.accept.injEq, and_true] using through
    have headers := congrArg Broker.Message.headers same
    simp [Broker.Message.putHeader] at headers

theorem abandoned_ne_passed (c : Call) : c.abandoned ≠ c.passed := by
  cases c <;> simp [Call.abandoned, Call.passed]

/-- A schema is found exactly when its registry exists, its name has a value and the registry has it under
that name; the search fails at the first stage that does, and comes to nothing only if the registry has no
answer.  Every fault leaves the event without a schema, so each surface refuses the payload as malformed,
with the fault as the text that is recorded, and none lets it through, also when it is to respond straight.
The refusal shows unless the event is cancelled while it is worded. -/
theorem unresolved_never_passes [RuleSystem] (route : RegistryRoute) :
    (∀ resources engine,
      (∀ schema, (route.seek resources engine).result? = some (.ok schema) ↔
        ∃ subject, Answered route resources engine.evaluate subject (.ok (some schema))) ∧
      (∀ error, (route.seek resources engine).result? = some (.error error) ↔
        Faults route resources engine.evaluate error) ∧
      ((route.seek resources engine).result? = none ↔
        ∃ service subject, resources.get? route.resource = some service ∧
          engine.evaluate route.mapping = .ok (some subject) ∧ (service subject).result? = none) ∧
      ∀ error, Faults route resources engine.evaluate error → error.isUnresolved = true) ∧
    (∀ p env c s error, p.resolver = .lookup route → p.Seeks c → s.cancelled = false →
      true ∉ (p.sought env c).pending → Faults route env.resources (c.engine env).evaluate error →
        ((p.waits env (c.engine env) c.phase? (some ⟨.format, error.message, true⟩)).cutOff = false →
          Shows p c (some ⟨.format, error.message, true⟩) s (p.call env c s)) ∧
        (p.call env c s).2.recorded? = some error.message ∧
        (p.call env c s).1 ≠ c.passed) ∧
    ∀ (p : Policy) (env : Environment) (c : Call) refusal?, env.Prompt →
      (p.waits env (c.engine env) c.phase? refusal?).cutOff = false := by
  refine ⟨fun resources engine => ⟨fun schema => result?_resolve_eq_ok_iff,
    fun error => result?_resolve_eq_error_iff, result?_resolve_eq_none_iff,
    fun error => isUnresolved_of_faults⟩, fun p env c s error routed seeks live undisturbed fails => ?_,
    fun p env c refusal? prompt => cutOff_waits (Call.prompt_engine prompt c) p env c.phase? refusal?⟩
  have ends : (p.sought env c).result? = some (.error error) := by
    rw [sought, routed]
    exact result?_of_faults fails
  have finds : p.Finds env (c.engine env) s (.error error) :=
    ⟨live, Awaited.raced?_eq_some_iff.2 ⟨undisturbed, ends⟩⟩
  have shows (uncut : (p.waits env (c.engine env) c.phase?
      (some ⟨.format, error.message, true⟩)).cutOff = false) :
      Shows p c (some ⟨.format, error.message, true⟩) s (p.call env c s) :=
    shows_of_concludes seeks ⟨finds, uncut⟩
  refine ⟨shows, ?_, ?_⟩
  · rw [call_of_finds seeks finds]
    rfl
  · by_cases uncut : (p.waits env (c.engine env) c.phase?
        (some ⟨.format, error.message, true⟩)).cutOff = false
    · exact ne_passed_of_refuses ((shows uncut).refused _ rfl).1 rfl
    · have cut : (p.waits env (c.engine env) c.phase?
          (verdict p.options (.error error) c.payload)).cutOff = true := Bool.eq_true_of_not_eq_false uncut
      rw [call_of_finds seeks finds]
      dsimp only
      rw [if_pos cut]
      exact abandoned_ne_passed c

/-- The registry exists, is asked for the right name and fails at its second poll for a reason of its own.
Straight responding does not help the response. -/
theorem unresolved_never_passes_registry_fault :
    let route : RegistryRoute := ⟨"schemas", "{topic}-v1"⟩
    let service : RegistryService := fun subject =>
      { pending := [false], result? := some (.error (.loadFailed subject)) }
    let host : Environment := Host.ofAttributes (NameMap.empty.insert "schemas" service)
      (NameMap.empty.insert "topic" "orders")
    let p : Policy :=
      { resolver := .lookup route, options := {}, messageExpression? := none
        straightRespond := true, scope := .request, publish? := none, subscribe? := none }
    let c : Call := .body .response (Utf8.encode "1")
    let error := SchemaError.lookupFailed "failed to load schema: orders-v1"
    p.resolver = .lookup route ∧ p.Seeks c ∧ true ∉ (p.sought host c).pending ∧
      Faults route host.resources host.engine.evaluate error ∧ error.isUnresolved = true ∧
      (p.call host c {}).2.recorded? =
        some "schema registry lookup failed: failed to load schema: orders-v1" ∧
      (p.call host c {}).1 ≠ c.passed := by
  intro route service host p c error
  have answered : Answered route host.resources host.engine.evaluate "orders-v1"
      (.error (.loadFailed "orders-v1")) := ⟨by decide, service, rfl, rfl⟩
  have fails : Faults route host.resources host.engine.evaluate error := .wrapped answered rfl
  have undisturbed : true ∉ (p.sought host c).pending := by decide
  have search := (unresolved_never_passes route).1 host.resources host.engine
  have refused := (unresolved_never_passes route).2.1 p host c {} error rfl trivial rfl undisturbed fails
  have shows := refused.1 ((unresolved_never_passes route).2.2 p host c _ (Host.prompt _))
  exact ⟨rfl, trivial, undisturbed, fails, search.2.2.2 error fails, (shows.refused _ rfl).2,
    refused.2.2⟩

end Policy

end SchemaGate

import SchemaGate.Gate.Surface
import SchemaGate.Proofs.Validation.Cache

/-!
# Verdicts

What a policy thinks of a payload is settled by its options, by what was found as the schema, and by the
payload; the payloads that it judged before do not show.  `Policy.check` has three ends, for an event
that is cancelled, for a schema that is waited for without end, and for one that has been sought to the
end; each is one equation here.
-/

namespace SchemaGate

section Results

variable {ε ε' α β : Type}

theorem bind_eq_ok_iff {x : Except ε α} {f : α → Except ε β} {b : β} :
    (x >>= f) = .ok b ↔ ∃ a, x = .ok a ∧ f a = .ok b := by
  cases x <;> simp [bind, Except.bind]

theorem bind_eq_error_iff {x : Except ε α} {f : α → Except ε β} {error : ε} :
    (x >>= f) = .error error ↔ x = .error error ∨ ∃ a, x = .ok a ∧ f a = .error error := by
  cases x <;> simp [bind, Except.bind]

theorem mapError_eq_ok_iff {x : Except ε α} {f : ε → ε'} {a : α} :
    x.mapError f = .ok a ↔ x = .ok a := by
  cases x <;> simp [Except.mapError]

theorem mapError_eq_error_iff {x : Except ε α} {f : ε → ε'} {error : ε'} :
    x.mapError f = .error error ↔ ∃ cause, x = .error cause ∧ f cause = error := by
  cases x <;> simp [Except.mapError]

theorem map_eq_ok_iff {x : Except ε α} {f : α → β} {b : β} :
    x.map f = .ok b ↔ ∃ a, x = .ok a ∧ f a = b := by
  cases x <;> simp [Except.map]

theorem map_eq_error_iff {x : Except ε α} {f : α → β} {error : ε} :
    x.map f = .error error ↔ x = .error error := by
  cases x <;> simp [Except.map]

end Results

namespace Policy

/-- The parts of a policy, each as its configuration has it. -/
structure BuiltFrom (c : Configuration) (p : Policy) : Prop where
  resolver : ∃ source, c.effectiveSource = .ok source ∧ Resolver.ofSource source = .ok p.resolver
  options : p.options = c.options
  messageExpression? : p.messageExpression? = c.messageExpression?
  straightRespond : p.straightRespond = c.straightRespondMode
  scope : p.scope = c.scope
  publish? : p.publish? = c.onPublish?.map PublishHandling.strategy
  subscribe? : c.onSubscribe?.mapM SubscribeHandler.ofHandling = .ok p.subscribe?

theorem builtFrom_of_ofConfiguration {c : Configuration} {p : Policy}
    (h : ofConfiguration c = .ok p) : BuiltFrom c p := by
  simp only [ofConfiguration, bind_eq_ok_iff, mapError_eq_ok_iff] at h
  obtain ⟨source, hsource, resolver, hresolver, subscribe?, hsubscribe, hp⟩ := h
  obtain rfl := Except.ok.inj hp
  exact ⟨⟨source, hsource, hresolver⟩, rfl, rfl, rfl, rfl, rfl, hsubscribe⟩

end Policy

def Engine.Prompt (engine : Engine) : Prop :=
  ∀ expression, (engine.polls expression).pending = []

structure Environment.Prompt (env : Environment) : Prop where
  engine : env.engine.Prompt
  engineFor : ∀ bindings, (env.engineFor bindings).Prompt

theorem Host.prompt (host : Host) : (host : Environment).Prompt :=
  ⟨fun _ => rfl, fun _ _ => rfl⟩

variable [RuleSystem]

/-- Why a payload is refused, by an engine that has judged nothing before. -/
def verdict (options : ValidationOptions) (found : Except SchemaError Schema) (payload : Bytes) :
    Option Refusal :=
  match found with
  | .error error => some (.noSchema error.message)
  | .ok schema =>
    match ((ValidationEngine.ofOptions options).validate schema payload).1 with
    | .ok report => if report.success then none else some (.payload report.describe)
    | .error error => some (.format error.message)

namespace Policy

theorem judge_fst (engine : ValidationEngine) (found : Except SchemaError Schema) (payload : Bytes) :
    (judge engine found payload).1 = verdict engine.options found payload := by
  cases found with
  | error error => rfl
  | ok schema =>
    unfold judge verdict
    dsimp only
    rw [← engine.validate_fst]
    split
    · next validated => rw [validated]
    · next validated => rw [validated]

/-- The event is not cancelled, and the search for the schema of a payload ends with `found`. -/
structure Finds (p : Policy) (env : Environment) (engine : Engine) (s : Session)
    (found : Except SchemaError Schema) : Prop where
  live : s.cancelled = false
  ends : (p.resolver.seek env.resources engine).raced? = some found

/-- The polls of an event since the search for a schema has ended, if these are waited for. -/
def since (p : Policy) (env : Environment) (engine : Engine) (waits : Polls) : Polls :=
  waits.after (p.resolver.seek env.resources engine).cancels

/-- What is left of the session when the search for a payload's schema has ended with `found`, and the
event has been through these polls since. -/
def next (p : Policy) (env : Environment) (engine : Engine) (found : Except SchemaError Schema)
    (payload : Bytes) (polls : Polls) (s : Session) : Session where
  cache? := (judge ⟨p.options, s.cache?⟩ found payload).2.cache?
  cancelled := polls.cutOff || polls.cancels
  recorded? := ((verdict p.options found payload).map Refusal.detail).or s.recorded?
  lookups := s.lookups ++ (p.resolver.seek env.resources engine).lookup?.toList

section Check

variable {α : Type} {p : Policy} {env : Environment} {engine : Engine} {s : Session}

theorem check_of_cancelled (h : s.cancelled = true) (payload : Bytes) (waits : Option Refusal → Polls)
    (react : Option Refusal → Except PolicyError α) :
    p.check env engine payload waits react s = (.error .cancelled, s) := by
  rw [check, if_pos h]

theorem check_of_endless (live : s.cancelled = false)
    (h : (p.resolver.seek env.resources engine).raced? = none) (payload : Bytes)
    (waits : Option Refusal → Polls) (react : Option Refusal → Except PolicyError α) :
    p.check env engine payload waits react s =
      (.error .cancelled, { s with
        cancelled := true
        lookups := s.lookups ++ (p.resolver.seek env.resources engine).lookup?.toList }) := by
  rw [check, if_neg (by simp [live])]
  simp only [h]

/-- A payload is judged when the search has ended; what is waited for then may still be cut off. -/
theorem check_of_finds {found : Except SchemaError Schema} (h : p.Finds env engine s found)
    (payload : Bytes) (waits : Option Refusal → Polls) (react : Option Refusal → Except PolicyError α) :
    let polls := p.since env engine (waits (verdict p.options found payload))
    p.check env engine payload waits react s =
      (if polls.cutOff then .error .cancelled else react (verdict p.options found payload),
        p.next env engine found payload polls s) := by
  rw [check, if_neg (by simp [h.live])]
  simp only [h.ends, judge_fst]
  rfl

/-- A check whose search does not end with anything is given up, whatever it would have waited for or
reacted with. -/
theorem finds_or_given_up (p : Policy) (env : Environment) (engine : Engine) (s : Session) :
    (∃ found, p.Finds env engine s found) ∨
      ∃ next : Session, ∀ (α : Type) (payload : Bytes) (waits : Option Refusal → Polls)
        (react : Option Refusal → Except PolicyError α),
        p.check env engine payload waits react s = (.error .cancelled, next) := by
  by_cases cancelled : s.cancelled = true
  · exact .inr ⟨s, fun α => check_of_cancelled cancelled⟩
  · have live := Bool.eq_false_iff.2 cancelled
    cases ends : (p.resolver.seek env.resources engine).raced? with
    | none => exact .inr ⟨_, fun α => check_of_endless live ends⟩
    | some found => exact .inl ⟨found, live, ends⟩

end Check

end Policy

end SchemaGate

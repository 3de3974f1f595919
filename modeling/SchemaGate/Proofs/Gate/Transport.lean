import SchemaGate.Proofs.Gate.Run

/-!
# Options of one transport

A configuration has options for bodies, options for messages and options for the records of a broker.  Main
statement: a call depends on the options of its own kind only, so policies that agree on those give the same
answers and leave the same of the event, call by call and over runs.
-/

namespace SchemaGate

namespace Configuration

/-- The configurations agree on what a phase that answers with a failure reads; straight responding is not
looked at for what clients ask for. -/
structure AgreeOnFailures (c d : Configuration) (phase : Phase) : Prop where
  errorMessage? : c.errorMessage? = d.errorMessage?
  straightRespondMode : phase ≠ .request → c.straightRespondMode = d.straightRespondMode

/-- The configurations agree on the options for calls of this kind. -/
def AgreeFor (c d : Configuration) : Call → Prop
  | .body direction _ => AgreeOnFailures c d (.ofBody direction)
  | .message direction _ => AgreeOnFailures c d (.ofMessage direction)
  | .content direction _ => c.scope = d.scope ∧ AgreeOnFailures c d (.ofBody direction)
  | .publish _ _ => c.handling? = d.handling?
  | .subscribe _ _ => c.handling? = d.handling?

/-- The configurations agree on the schema and on how payloads are held against it. -/
structure SameRules (c d : Configuration) : Prop where
  source : c.effectiveSource = d.effectiveSource
  unchecked : c.validateUnchecked = d.validateUnchecked
  deepCheck : c.deepCheck = d.deepCheck

end Configuration

namespace Policy

section Parts

variable {c d : Configuration} {p q : Policy}

theorem resolver_eq (first : BuiltFrom c p) (second : BuiltFrom d q)
    (same : c.effectiveSource = d.effectiveSource) : p.resolver = q.resolver := by
  obtain ⟨source, found, made⟩ := first.resolver
  obtain ⟨other, sought, built⟩ := second.resolver
  obtain rfl := Except.ok.inj (found.symm.trans (same.trans sought))
  exact Except.ok.inj (made.symm.trans built)

theorem options_eq (first : BuiltFrom c p) (second : BuiltFrom d q) (same : c.SameRules d) :
    p.options = q.options := by
  rw [first.options, second.options, Configuration.options, Configuration.options, same.unchecked,
    same.deepCheck]

theorem publish?_eq (first : BuiltFrom c p) (second : BuiltFrom d q)
    (same : c.handling? = d.handling?) : p.publish? = q.publish? := by
  rw [first.publish?, second.publish?, Configuration.onPublish?, Configuration.onPublish?, same]

theorem subscribe?_eq (first : BuiltFrom c p) (second : BuiltFrom d q)
    (same : c.handling? = d.handling?) : p.subscribe? = q.subscribe? := by
  have made := first.subscribe?
  rw [Configuration.onSubscribe?, same] at made
  exact Except.ok.inj (made.symm.trans second.subscribe?)

/-- A phase that does not let refused payloads through does not see whether it is to respond straight. -/
theorem straight_eq {phase : Phase} (first : BuiltFrom c p) (second : BuiltFrom d q)
    (same : c.AgreeOnFailures d phase) :
    (p.straightRespond && phase.allowsStraightRespond) =
      (q.straightRespond && phase.allowsStraightRespond) := by
  -- Only for what clients ask for may the modes differ, and there they make no difference.
  by_cases request : phase = .request
  · simp [request, Phase.allowsStraightRespond]
  · rw [first.straightRespond, second.straightRespond, same.straightRespondMode request]

theorem messageExpression?_eq {phase : Phase} (first : BuiltFrom c p) (second : BuiltFrom d q)
    (same : c.AgreeOnFailures d phase) : p.messageExpression? = q.messageExpression? := by
  rw [first.messageExpression?, second.messageExpression?, Configuration.messageExpression?,
    Configuration.messageExpression?, same.errorMessage?]

theorem failure?_eq {phase : Phase} (first : BuiltFrom c p) (second : BuiltFrom d q)
    (same : c.AgreeOnFailures d phase) (buffered : Bool) (evaluate : Evaluator)
    (refusal? : Option Refusal) :
    p.failure? phase buffered evaluate refusal? = q.failure? phase buffered evaluate refusal? := by
  cases refusal? with
  | none => rfl
  | some refusal =>
    simp only [failure?, straight_eq first second same, messageExpression?_eq first second same]

theorem wording_eq {phase : Phase} (first : BuiltFrom c p) (second : BuiltFrom d q)
    (same : c.AgreeOnFailures d phase) (engine : Engine) (refusal? : Option Refusal) :
    p.wording phase engine refusal? = q.wording phase engine refusal? := by
  cases refusal? with
  | none => rfl
  | some refusal =>
    simp only [wording, straight_eq first second same, messageExpression?_eq first second same]

variable {call : Call}

theorem idle?_eq (first : BuiltFrom c p) (second : BuiltFrom d q) (agree : c.AgreeFor d call) :
    p.idle? call = q.idle? call := by
  cases call with
  | body direction bytes => rfl
  | message direction message => rfl
  | content direction body => rw [idle?, idle?, first.scope, second.scope, agree.1]
  | publish request message => rw [idle?, idle?, publish?_eq first second agree]
  | subscribe response message => rw [idle?, idle?, subscribe?_eq first second agree]

theorem seeks_iff (first : BuiltFrom c p) (second : BuiltFrom d q) (agree : c.AgreeFor d call) :
    p.Seeks call ↔ q.Seeks call := by
  cases call with
  | body direction bytes => rfl
  | message direction message => rfl
  | content direction body => rw [Seeks, Seeks, first.scope, second.scope, agree.1]
  | publish request message => rw [Seeks, Seeks, publish?_eq first second agree]
  | subscribe response message => rw [Seeks, Seeks, subscribe?_eq first second agree]

theorem waits_eq (first : BuiltFrom c p) (second : BuiltFrom d q) (rules : c.SameRules d)
    (agree : c.AgreeFor d call) (env : Environment) (refusal? : Option Refusal) :
    p.waits env (call.engine env) call.phase? refusal? =
      q.waits env (call.engine env) call.phase? refusal? := by
  have phased (phase : Phase) (same : c.AgreeOnFailures d phase) :
      p.waits env (call.engine env) (some phase) refusal? =
        q.waits env (call.engine env) (some phase) refusal? := by
    simp only [waits, since, resolver_eq first second rules.source, Option.elim,
      wording_eq first second same]
  cases call with
  | body direction bytes => exact phased _ agree
  | message direction message => exact phased _ agree
  | content direction body => exact phased _ agree.2
  | publish request message | subscribe response message =>
    simp only [waits, since, resolver_eq first second rules.source, Call.phase?, Option.elim]

theorem settled_eq (first : BuiltFrom c p) (second : BuiltFrom d q) (agree : c.AgreeFor d call)
    (env : Environment) (refusal? : Option Refusal) :
    p.settled env call refusal? = q.settled env call refusal? := by
  cases call with
  | body direction bytes => rw [settled, settled, failure?_eq first second agree]
  | message direction message => rw [settled, settled, failure?_eq first second agree]
  | content direction body => rw [settled, settled, failure?_eq first second agree.2]
  | publish request message => rw [settled, settled, publish?_eq first second agree]
  | subscribe response message => rw [settled, settled, subscribe?_eq first second agree]

end Parts

end Policy

section Rules

variable [RuleSystem]

/-- The sessions hold the same of their event; they may keep different schemas compiled. -/
structure Session.SameEvent (s t : Session) : Prop where
  cancelled : s.cancelled = t.cancelled
  recorded? : s.recorded? = t.recorded?
  lookups : s.lookups = t.lookups

/-- The same comes back, and the same is left of the event. -/
structure Alike {α : Type} (ends others : α × Session) : Prop where
  result : ends.1 = others.1
  event : ends.2.SameEvent others.2

theorem Alike.map {α β : Type} {ends others : α × Session} (h : Alike ends others) (f : α → β) :
    Alike (f ends.1, ends.2) (f others.1, others.2) :=
  ⟨congrArg f h.result, h.event⟩

namespace Policy

variable {c d : Configuration} {p q : Policy} {call : Call}

theorem ends_alike {s t : Session} (first : BuiltFrom c p) (second : BuiltFrom d q)
    (rules : c.SameRules d) (same : s.SameEvent t) (env : Environment) (engine : Engine) :
    (∃ next other : Session, next.SameEvent other ∧
      ∀ (α : Type) (payload : Bytes) (waits : Option Refusal → Polls)
        (react : Option Refusal → Except PolicyError α),
        p.check env engine payload waits react s = (.error .cancelled, next) ∧
          q.check env engine payload waits react t = (.error .cancelled, other)) ∨
    ∃ found, p.Finds env engine s found ∧ q.Finds env engine t found := by
  have resolver := resolver_eq first second rules.source
  by_cases cancelled : s.cancelled = true
  · have ended : t.cancelled = true := same.cancelled ▸ cancelled
    exact .inl ⟨s, t, same, fun α payload waits react =>
      ⟨check_of_cancelled cancelled payload waits react, check_of_cancelled ended payload waits react⟩⟩
  · have live := Bool.eq_false_iff.2 cancelled
    have alive : t.cancelled = false := same.cancelled ▸ live
    cases ends : (p.resolver.seek env.resources engine).raced? with
    | none =>
      refine .inl ⟨_, _, ?_, fun α payload waits react =>
        ⟨check_of_endless live ends payload waits react,
          check_of_endless alive (resolver ▸ ends) payload waits react⟩⟩
      rw [← resolver]
      exact ⟨rfl, same.recorded?, congrArg (· ++ _) same.lookups⟩
    | some found => exact .inr ⟨found, ⟨live, ends⟩, ⟨alive, resolver ▸ ends⟩⟩

theorem next_alike {s t : Session} (first : BuiltFrom c p) (second : BuiltFrom d q)
    (rules : c.SameRules d) (same : s.SameEvent t) (env : Environment) (engine : Engine)
    (found : Except SchemaError Schema) (payload : Bytes) (polls : Polls) :
    (p.next env engine found payload polls s).SameEvent
      (q.next env engine found payload polls t) := by
  refine ⟨rfl, ?_, ?_⟩
  · rw [next, next, options_eq first second rules, same.recorded?]
  · rw [next, next, resolver_eq first second rules.source, same.lookups]

theorem call_alike {s t : Session} (first : BuiltFrom c p) (second : BuiltFrom d q)
    (rules : c.SameRules d) (agree : c.AgreeFor d call) (same : s.SameEvent t) (env : Environment) :
    Alike (p.call env call s) (q.call env call t) := by
  cases used : p.idle? call with
  | some answer =>
    rw [call_of_idle used, call_of_idle (idle?_eq first second agree ▸ used)]
    exact ⟨rfl, same⟩
  | none =>
    have inUse : q.idle? call = none := idle?_eq first second agree ▸ used
    by_cases seeks : p.Seeks call
    · have reaches := (seeks_iff first second agree).1 seeks
      have arrives (direction : Direction) (body : BodyStream)
          (content : call = .content direction body) : body.ends = true := by
        subst content
        exact seeks.2
      rcases ends_alike first second rules same env (call.engine env) with
        ⟨next, other, left, givenUp⟩ | ⟨found, finds, finds'⟩
      · rw [call_of_given_up used (fun direction body content => .inl (arrives direction body content))
            fun α payload waits react => (givenUp α payload waits react).1,
          call_of_given_up inUse (fun direction body content => .inl (arrives direction body content))
            fun α payload waits react => (givenUp α payload waits react).2]
        exact ⟨rfl, left⟩
      · rw [call_of_finds seeks finds, call_of_finds reaches finds', options_eq first second rules,
          waits_eq first second rules agree, settled_eq first second agree]
        exact ⟨rfl, next_alike first second rules same env _ _ _ _⟩
    · obtain ⟨direction, body, rfl, active, stalls⟩ := stalls_of_not_seeks used seeks
      have covered : q.scope = direction := by
        rw [← active, second.scope, first.scope, agree.1]
      by_cases cancelled : s.cancelled = true
      · rw [call_of_cancelled cancelled, call_of_cancelled (same.cancelled ▸ cancelled), turnedAway,
          turnedAway, used, inUse]
        exact ⟨rfl, same⟩
      · have live := Bool.eq_false_iff.2 cancelled
        rw [call_of_stalled active stalls live,
          call_of_stalled covered stalls (same.cancelled ▸ live)]
        exact ⟨rfl, rfl, same.recorded?, same.lookups⟩

theorem run_cons_alike {s t : Session} {happening : Happening} {rest : List Happening}
    (now : Alike (p.step happening s) (q.step happening t))
    (later : Alike (p.run rest (p.step happening s).2) (q.run rest (q.step happening t).2)) :
    Alike (p.run (happening :: rest) s) (q.run (happening :: rest) t) := by
  rw [run_cons, run_cons, now.result, later.result]
  exact ⟨rfl, later.event⟩

theorem run_calls_alike {s t : Session} (first : BuiltFrom c p) (second : BuiltFrom d q)
    (rules : c.SameRules d) (env : Environment) {calls : List Call} (agree : ∀ call ∈ calls, c.AgreeFor d call)
    (same : s.SameEvent t) :
    Alike (p.run (calls.map (.call env)) s) (q.run (calls.map (.call env)) t) := by
  induction calls generalizing s t with
  | nil => exact ⟨rfl, same⟩
  | cons call calls ih =>
    have now := call_alike first second rules (agree call (by simp)) same env
    exact run_cons_alike (now.map fun answer => [answer])
      (ih (fun other member => agree other (by simp [member])) now.event)

theorem step_alike {s t : Session} (first : BuiltFrom c p) (second : BuiltFrom d q)
    (rules : c.SameRules d) {happening : Happening}
    (agree : ∀ call ∈ happening.calls, c.AgreeFor d call) (same : s.SameEvent t) :
    Alike (p.step happening s) (q.step happening t) := by
  cases happening with
  | call env call =>
    exact (call_alike first second rules (agree call (by simp [Happening.calls])) same env).map
      fun answer => [answer]
  | stream env direction messages =>
    have each := run_calls_alike first second rules env agree same
    rw [Happening.calls, List.map_map] at each
    rw [step_stream, step_stream]
    exact each
  | cancel => exact ⟨rfl, rfl, same.recorded?, same.lookups⟩

theorem run_alike {s t : Session} (first : BuiltFrom c p) (second : BuiltFrom d q)
    (rules : c.SameRules d) {happenings : List Happening}
    (agree : ∀ call ∈ happenings.flatMap Happening.calls, c.AgreeFor d call) (same : s.SameEvent t) :
    Alike (p.run happenings s) (q.run happenings t) := by
  induction happenings generalizing s t with
  | nil => exact ⟨rfl, same⟩
  | cons happening rest ih =>
    rw [List.flatMap_cons] at agree
    have now := step_alike first second rules
      (fun call member => agree call (List.mem_append_left _ member)) same
    exact run_cons_alike now
      (ih (fun call member => agree call (List.mem_append_right _ member)) now.event)

/-- The records of a broker are dealt with alike whatever the configurations say of straight responding, of
the message of a failure and of the bodies that are covered; what clients ask for, whatever they say of
straight responding, of the bodies that are covered and of the broker; responses and messages likewise, if
both respond straight or neither does.  So it is over every run of calls for whose kinds the configurations
agree, also if the policies keep different schemas compiled. -/
theorem options_stay_apart {c d : Configuration} {p q : Policy} (first : ofConfiguration c = .ok p)
    (second : ofConfiguration d = .ok q) (rules : c.SameRules d) :
    (c.handling? = d.handling? → ∀ env s t, s.SameEvent t →
      (∀ request message,
        Alike (p.call env (.publish request message) s) (q.call env (.publish request message) t)) ∧
      ∀ response message,
        Alike (p.call env (.subscribe response message) s)
          (q.call env (.subscribe response message) t)) ∧
    (c.errorMessage? = d.errorMessage? → ∀ env s t, s.SameEvent t →
      (∀ body, Alike (p.call env (.body .request body) s) (q.call env (.body .request body) t)) ∧
      (c.straightRespondMode = d.straightRespondMode →
        (∀ body,
          Alike (p.call env (.body .response body) s) (q.call env (.body .response body) t)) ∧
        ∀ direction message,
          Alike (p.call env (.message direction message) s)
            (q.call env (.message direction message) t))) ∧
    ∀ happenings s t, s.SameEvent t →
      (∀ call ∈ happenings.flatMap Happening.calls, c.AgreeFor d call) →
        Alike (p.run happenings s) (q.run happenings t) := by
  have parts := builtFrom_of_ofConfiguration first
  have others := builtFrom_of_ofConfiguration second
  refine ⟨fun handling env s t same => ⟨fun request message => ?_, fun response message => ?_⟩,
    fun expression env s t same => ⟨fun body => ?_, fun straight =>
      ⟨fun body => ?_, fun direction message => ?_⟩⟩,
    fun happenings s t same agree => run_alike parts others rules agree same⟩
  · refine call_alike parts others rules ?_ same env
    exact handling
  · refine call_alike parts others rules ?_ same env
    exact handling
  · refine call_alike parts others rules ?_ same env
    exact ⟨expression, fun other => absurd rfl other⟩
  · refine call_alike parts others rules ?_ same env
    exact ⟨expression, fun _ => straight⟩
  · refine call_alike parts others rules ?_ same env
    exact ⟨expression, fun _ => straight⟩

end Policy

end Rules

namespace Policy

/-- The message of one configuration cannot be evaluated.  A record is marked all the same, as it is without
that message, and what a client asks for is answered as it is without marking. -/
theorem options_stay_apart_unworded :
    let source := SchemaSource.registry "schemas" "orders"
    let marking : BrokerHandling := { onSubscribe? := some ⟨.addRecordHeader, some "X-Invalid"⟩ }
    let c : Configuration :=
      { source? := some source, straightRespondMode := true, errorMessage? := some "\x7b"
        handling? := some marking, scope := .response }
    let d : Configuration := { source? := some source, handling? := some marking }
    let e : Configuration := { source? := some source, errorMessage? := some "\x7b" }
    let p : Policy :=
      { resolver := .lookup ⟨"schemas", "orders"⟩, options := {}, messageExpression? := some "\x7b"
        straightRespond := true, scope := .response, publish? := none
        subscribe? := some (.addRecordHeader "X-Invalid") }
    let q : Policy :=
      { p with messageExpression? := none, straightRespond := false, scope := .request }
    let r : Policy := { p with straightRespond := false, scope := .request, subscribe? := none }
    let host : Environment := Host.ofAttributes .empty .empty
    let message : Broker.Message := { topic := "a", partition := 0, offset := 3, content := [] }
    let response : Broker.FetchResponse := { topics := [⟨"a", [{ index := 0, records := ⟨[1]⟩ }]⟩] }
    let marked := message.putHeader "X-Invalid"
      (Utf8.encode "unable to resolve schema registry resource: schemas")
    ofConfiguration c = .ok p ∧ ofConfiguration d = .ok q ∧ ofConfiguration e = .ok r ∧
      c.SameRules d ∧ c.handling? = d.handling? ∧ c.SameRules e ∧ c.errorMessage? = e.errorMessage? ∧
      (q.call host (.subscribe response message) {}).1 =
        .subscribe (.ok (.accept marked)) response ∧
      (r.call host (.body .request []) {}).1 =
        .body (.error (.errorMessage (.invalidExpression "\x7b" (.unterminated 0)))) := by
  intro source marking c d e p q r host message response marked
  have first : ofConfiguration c = .ok p := by decide
  have second : ofConfiguration d = .ok q := by decide
  have third : ofConfiguration e = .ok r := by decide
  have like : c.SameRules d := ⟨rfl, rfl, rfl⟩
  have alike : c.SameRules e := ⟨rfl, rfl, rfl⟩
  have same : ({} : Session).SameEvent {} := ⟨rfl, rfl, rfl⟩
  have records := ((options_stay_apart first second like).1 rfl host {} {} same).2 response message
  have requests := ((options_stay_apart first third alike).2.1 rfl host {} {} same).1 []
  exact ⟨first, second, third, like, rfl, alike, rfl, records.result.symm.trans rfl,
    requests.result.symm.trans rfl⟩

end Policy

end SchemaGate

import SchemaGate.Proofs.Gate.Run

/-!
# Cancellation

An event may be cancelled at any time: between two calls, by the registry that is asked during a call, or
while something is waited for.  Main statement: what each of these does to the call and to those after.
-/

namespace SchemaGate

open Broker

def Polls.quiet (polls : Polls) : Polls :=
  { polls with cancels := false }

def Engine.quiet (engine : Engine) : Engine :=
  { engine with polls := fun expression => (engine.polls expression).quiet }

/-- The same environment, except that a poll which ends a look-up or an evaluation leaves the event
alone. -/
def Environment.quiet (env : Environment) : Environment where
  resources := env.resources.mapValues fun service subject =>
    { service subject with cancels := false }
  engine := env.engine.quiet
  engineFor bindings := (env.engineFor bindings).quiet

/-- Work that begins in a poll which cancels the event is cut off unless it is done at once. -/
theorem Polls.cutOff_after_true {polls : Polls} :
    (polls.after true).cutOff = false ↔ polls.pending = [] := by
  obtain ⟨pending, cancels⟩ := polls
  cases pending <;> simp [after, cutOff]

theorem behind_quiet {polls : Polls} {resolution : Resolution}
    (undisturbed : true ∉ (resolution.behind polls).pending) :
    Resolution.behind polls.quiet { resolution with cancels := false } =
      { resolution.behind polls with cancels := false } := by
  obtain ⟨⟨⟨pending, cancels⟩, result?⟩, lookup?⟩ := resolution
  obtain ⟨before, cancelled⟩ := polls
  cases cancelled with
  | false => rfl
  | true =>
    cases pending with
    | nil => rfl
    | cons next pending => simp [Resolution.behind, Polls.after] at undisturbed

theorem resolve_quiet (route : RegistryRoute) (env : Environment) (evaluate : Evaluator) :
    route.resolve env.quiet.resources evaluate =
      { route.resolve env.resources evaluate with cancels := false } := by
  simp only [RegistryRoute.resolve, Environment.quiet, NameMap.get?_mapValues]
  cases env.resources.get? route.resource with
  | none => rfl
  | some service => cases route.subject evaluate <;> rfl

theorem seek_quiet {resolver : Resolver} {env : Environment} {engine : Engine}
    (undisturbed : true ∉ (resolver.seek env.resources engine).pending) :
    resolver.seek env.quiet.resources engine.quiet =
      { resolver.seek env.resources engine with cancels := false } := by
  cases resolver with
  | fixed schema => rfl
  | lookup route =>
    simp only [Resolver.seek, RegistryRoute.seek] at undisturbed ⊢
    have known : (env.quiet.resources.get? route.resource).isSome =
        (env.resources.get? route.resource).isSome := by
      simp [Environment.quiet, NameMap.get?_mapValues]
    rw [← behind_quiet undisturbed, resolve_quiet, known]
    split <;> rfl

namespace Policy

theorem wording_quiet (p : Policy) (phase : Phase) (engine : Engine) (refusal? : Option Refusal) :
    p.wording phase engine.quiet refusal? = (p.wording phase engine refusal?).quiet := by
  cases refusal? with
  | none => rfl
  | some refusal =>
    rw [wording, wording]
    split
    · rfl
    · cases p.messageExpression? <;> rfl

theorem waits_of_cancels {p : Policy} {env : Environment} {engine : Engine}
    (h : (p.resolver.seek env.resources engine).cancels = true)
    (phase? : Option Phase) (refusal? : Option Refusal) :
    p.waits env engine phase? refusal? =
      (phase?.elim {} fun phase => p.wording phase engine refusal?).after true := by
  rw [waits, since, h]

section Rules

variable [RuleSystem] {p : Policy} {env : Environment} {engine : Engine} {c : Call} {s : Session}
  {found : Except SchemaError Schema}

theorem Finds.undisturbed (h : p.Finds env engine s found) :
    true ∉ (p.resolver.seek env.resources engine).pending :=
  (Awaited.raced?_eq_some_iff.1 h.ends).1

theorem Finds.quiet (h : p.Finds env engine s found) : p.Finds env.quiet engine.quiet s found := by
  refine ⟨h.live, ?_⟩
  rw [seek_quiet h.undisturbed]
  exact h.ends

theorem waits_quiet (h : p.Finds env engine s found) (phase? : Option Phase)
    (refusal? : Option Refusal) :
    p.waits env.quiet engine.quiet phase? refusal? =
      (phase?.elim {} fun phase => p.wording phase engine refusal?).quiet := by
  rw [waits, since, seek_quiet h.undisturbed]
  cases phase? with
  | none => rfl
  | some phase => simp only [Option.elim, wording_quiet, Polls.after_false]

/-- What a call leaves is the same in the quiet environment, but for the event. -/
theorem next_quiet (h : p.Finds env engine s found) (payload : Bytes) (polls quiet : Polls) :
    { p.next env.quiet engine.quiet found payload quiet s with cancelled := true } =
      { p.next env engine found payload polls s with cancelled := true } := by
  simp only [next, seek_quiet h.undisturbed]

/-- A poll that ends the search and cancels the event has no say in the outcome, unless the wording of a
failure is waited for after it. -/
theorem call_of_cancelling (seeks : p.Seeks c) (h : p.Finds env (c.engine env) s found)
    (cancels : (p.sought env c).cancels = true) :
    let polls := p.waits env (c.engine env) c.phase? (verdict p.options found c.payload)
    let quiet := p.call env.quiet c s
    (polls.pending = [] →
      p.call env c s = (quiet.1, { quiet.2 with cancelled := true }) ∧ quiet.2.cancelled = false) ∧
    (polls.pending ≠ [] → p.call env c s = (c.abandoned, { quiet.2 with cancelled := true })) := by
  have engine : c.engine env.quiet = (c.engine env).quiet := by cases c <;> rfl
  have settled : p.settled env.quiet c = p.settled env c := by cases c <;> rfl
  have finds := h.quiet
  rw [← engine] at finds
  rw [call_of_finds seeks h, call_of_finds seeks finds, waits_of_cancels cancels, engine, settled,
    waits_quiet h]
  generalize (c.phase?.elim {} fun phase =>
    p.wording phase (c.engine env) (verdict p.options found c.payload)) = worded
  simp only [Polls.pending_after_eq_nil_iff, next_quiet h c.payload (worded.after true), ne_eq]
  have cancelled : p.next env (c.engine env) found c.payload (worded.after true) s =
      { p.next env (c.engine env) found c.payload (worded.after true) s with cancelled := true } := by
    simp [next, Polls.after]
  refine ⟨fun done => ?_, fun waited => ?_⟩
  · have whole : (worded.after true).cutOff = false := Polls.cutOff_after_true.2 done
    have alone : worded.quiet.cutOff = false := Polls.cutOff_of_pending done
    simp only [whole, alone, Bool.false_eq_true, if_false]
    exact ⟨Prod.ext rfl cancelled, by rw [next, alone]; rfl⟩
  · have cut : (worded.after true).cutOff = true := by simpa using mt Polls.cutOff_after_true.1 waited
    simp only [cut, if_true]
    exact Prod.ext rfl cancelled

/-- The calls after the cancellation of an event are turned away and leave no trace.  A call during which
a registry cancels the event, and answers, comes back as in the quiet environment, unless its failure is
waited for after that; then it is given up, and its refusal is recorded.  A call that waits for its schema
in vain is given up, and nothing is left of it but what was asked for.  The messages of a stream are calls
one after the other, so all this holds between them as well. -/
theorem run_cancelled (p : Policy) :
    (∀ before after s, (p.run before s).2.cancelled = true →
      p.run (before ++ after) s =
        ((p.run before s).1 ++ (after.flatMap Happening.calls).map p.turnedAway,
          (p.run before s).2)) ∧
    (∀ env c s found, p.Seeks c → p.Finds env (c.engine env) s found →
      (p.sought env c).cancels = true →
        let polls := p.waits env (c.engine env) c.phase? (verdict p.options found c.payload)
        let quiet := p.call env.quiet c s
        (polls.pending = [] → p.call env c s = (quiet.1, { quiet.2 with cancelled := true }) ∧
          quiet.2.cancelled = false) ∧
        (polls.pending ≠ [] → p.call env c s = (c.abandoned, { quiet.2 with cancelled := true }))) ∧
    (∀ env : Environment, env.Prompt → ∀ (c : Call) refusal?,
      (p.waits env (c.engine env) c.phase? refusal?).pending = []) ∧
    (∀ env c s, p.Seeks c → s.cancelled = false →
      (true ∈ (p.sought env c).pending ∨ (p.sought env c).result? = none) →
        p.call env c s = (c.abandoned, { s with
          cancelled := true
          lookups := s.lookups ++ (p.sought env c).lookup?.toList })) ∧
    ∀ env direction messages s,
      p.run [.stream env direction messages] s =
        p.run (messages.map fun message => .call env (.message direction message)) s := by
  refine ⟨fun before after s cancelled => ?_,
    fun env c s found seeks finds cancels => call_of_cancelling seeks finds cancels,
    fun env prompt c refusal? => pending_waits (Call.prompt_engine prompt c) p env c.phase? refusal?,
    fun env c s seeks live vain => call_of_endless live seeks (Awaited.raced?_eq_none_iff.2 vain),
    fun env direction messages s => ?_⟩
  · rw [run_append, run_of_cancelled cancelled]
  · rw [run_cons, run, step_stream, List.append_nil]

end Rules

/-- The registry cancels the event and answers, and the engine suspends over the message of the failure:
the failure is lost, though it has been recorded.  The first message of a stream has its outcome all the
same, and the second has none. -/
theorem run_cancelled_before_wording :
    let policy (subject : String) : Policy :=
      { resolver := .lookup ⟨"schemas", subject⟩, options := {}, messageExpression? := some "refused"
        straightRespond := false, scope := .request, publish? := none, subscribe? := none }
    let answer (subject : String) : Except SchemaError (Option Schema) :=
      .ok (if subject = "open" then some (.ofSubject "open" "true") else none)
    let engine : Engine :=
      { evaluate := Template.evaluate fun _ => none
        polls := fun expression => { pending := if expression = "refused" then [false] else [] } }
    let env : Environment :=
      { resources := NameMap.empty.insert "schemas" fun subject =>
          { cancels := true, result? := some (answer subject) }
        engine, engineFor := fun _ => engine }
    let shut : Call := .body .request (Utf8.encode "1")
    let message : Message := { content := Utf8.encode "1" }
    ((policy "shut").sought env shut).cancels = true ∧
      (policy "shut").Finds env (shut.engine env) {} (.error (.schemaNotFound "shut")) ∧
      ((policy "shut").call env.quiet shut {}).1 =
        .body (.ok (.interrupt ⟨400, "JSON_INVALID_FORMAT", "refused", "application/json"⟩)) ∧
      ((policy "shut").call env shut {}).1 = .body (.error .cancelled) ∧
      ((policy "shut").call env shut {}).2.recorded? = some "unable to resolve schema: shut" ∧
      ((policy "open").sought env (.message .request message)).cancels = true ∧
      ((policy "open").onMessages env.quiet .request [message, message] {}).1 =
        [.ok (.forward message), .ok (.forward message)] ∧
      ((policy "open").onMessages env .request [message, message] {}).1 =
        [.ok (.forward message), .error .cancelled] := by
  intro policy answer engine env shut message
  refine ⟨?_, ⟨rfl, ?_⟩, ?_, ?_, ?_, ?_, ?_, ?_⟩ <;> decide +kernel

/-- A registry cancels the event and knows no schema: the record is refused for that, and what comes after
is turned away.  Another leaves the event to be cancelled at its second poll, and its record is given
up. -/
theorem run_cancelled_during_fetch :
    let p : Policy :=
      { resolver := .lookup ⟨"schemas", "orders"⟩, options := {}, messageExpression? := none
        straightRespond := false, scope := .request, publish? := none
        subscribe? := some .invalidatePartition }
    let host (service : RegistryService) : Environment :=
      Host.ofAttributes (NameMap.empty.insert "schemas" service) .empty
    let cancelling := host fun _ => { cancels := true, result? := some (.ok none) }
    let waiting := host fun _ => { pending := [false, true], result? := some (.ok none) }
    let message : Message := { content := [] }
    let record : Broker.Message := { topic := "a", partition := 0, offset := 3, content := [] }
    let response : FetchResponse := { topics := [⟨"a", [{ index := 0, records := ⟨[1]⟩ }]⟩] }
    let spoiled : FetchResponse :=
      { errorCode := .corruptMessage
        topics := [⟨"a", [{ index := 0, errorCode := .corruptMessage, records := .empty }]⟩] }
    let fetch : Call := .subscribe response record
    let after : List Happening :=
      [.call cancelling fetch, .call waiting (.content .request ⟨[], true⟩),
        .call waiting (.content .response ⟨[], true⟩), .call waiting (.publish { topics := [] } record),
        .stream waiting .response [message, message], .cancel]
    let left : Session :=
      { cancelled := true, recorded? := some "unable to resolve schema: orders"
        lookups := [⟨"schemas", "orders"⟩] }
    p.run (.call cancelling fetch :: after) {} =
      ([.subscribe (.ok (.interrupt .format)) spoiled, .subscribe (.error .cancelled) response,
        .content (.error .cancelled), .content (.ok .skipped),
        .publish (.error (unconfigured "onPublish")), .message (.error .cancelled),
        .message (.error .cancelled)], left) ∧
    p.call cancelling fetch {} = ((p.call cancelling.quiet fetch {}).1, left) ∧
    p.call waiting fetch {} =
      (.subscribe (.error .cancelled) response,
        { cancelled := true, lookups := [⟨"schemas", "orders"⟩] }) := by
  intro p host cancelling waiting message record response spoiled fetch after left
  have finds : p.Finds cancelling (fetch.engine cancelling) {} (.error (.schemaNotFound "orders")) :=
    ⟨rfl, rfl⟩
  refine ⟨?_, ?_, ?_⟩
  · exact (run_cancelled p).1 [.call cancelling fetch] after {} rfl
  · exact (((run_cancelled p).2.1 cancelling fetch {} _ rfl finds rfl).1 rfl).1
  · exact (run_cancelled p).2.2.2.1 waiting fetch {} rfl rfl (.inl (by decide))

end Policy

end SchemaGate

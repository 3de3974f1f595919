import SchemaGate.Proofs.Gate.Agreement
import SchemaGate.Proofs.Gate.Run

/-!
# What is recorded

A refusal is recorded before anything is decided about it, and nothing else is.  Main statement: at every
point of a run, the text that is recorded is that of the last payload that was refused.
-/

namespace SchemaGate

/-- A call of a run: the refusal that its payload met, if it was judged and refused, and what the call
came back with. -/
structure Turn where
  call : Call
  refusal? : Option Refusal
  answer : Answer
deriving DecidableEq

/-- What a turn comes back with: after a refusal, what a refused payload may meet, or nothing if the call is
cut off while its failure is worded; otherwise the payload as it is, or what a surface that is not in use
has for every payload, or nothing at all. -/
inductive Accounts (p : Policy) : Turn → Prop where
  | refused {c : Call} {refusal : Refusal} {answer : Answer} (ways : Refuses p c refusal answer) :
      Accounts p ⟨c, some refusal, answer⟩
  | unheard {c : Call} {refusal : Refusal} : Accounts p ⟨c, some refusal, c.abandoned⟩
  | valid {c : Call} (seeks : p.Seeks c) : Accounts p ⟨c, none, c.passed⟩
  | idle {c : Call} {answer : Answer} (unused : p.idle? c = some answer) : Accounts p ⟨c, none, answer⟩
  | abandoned {c : Call} (used : p.idle? c = none) : Accounts p ⟨c, none, c.abandoned⟩

/-- The happening is in an environment whose engines never suspend. -/
def Happening.Prompt : Happening → Prop
  | .call env _ => env.Prompt
  | .stream env _ _ => env.Prompt
  | .cancel => True

def lastRefusal? (turns : List Turn) : Option Refusal :=
  turns.reverse.findSome? Turn.refusal?

theorem lastRefusal?_append (before after : List Turn) :
    lastRefusal? (before ++ after) = (lastRefusal? after).or (lastRefusal? before) := by
  rw [lastRefusal?, List.reverse_append, List.findSome?_append]
  rfl

@[simp] theorem lastRefusal?_nil : lastRefusal? [] = none := rfl

@[simp] theorem lastRefusal?_singleton (turn : Turn) : lastRefusal? [turn] = turn.refusal? := by
  rw [lastRefusal?, List.reverse_singleton, List.findSome?_singleton]

namespace Policy

instance decidableSeeks (p : Policy) : (c : Call) → Decidable (p.Seeks c)
  | .body _ _ => .isTrue trivial
  | .message _ _ => .isTrue trivial
  | .content direction body => inferInstanceAs (Decidable (p.scope = direction ∧ body.ends = true))
  | .publish _ _ => inferInstanceAs (Decidable (p.publish?.isSome = true))
  | .subscribe _ _ => inferInstanceAs (Decidable (p.subscribe?.isSome = true))

section Rules

variable [RuleSystem]

/-- The refusal that the payload of a call meets, if the call gets as far as judging it. -/
def refusal? (p : Policy) (env : Environment) (c : Call) (s : Session) : Option Refusal :=
  if s.cancelled = false ∧ p.Seeks c then
    (p.sought env c).raced?.bind fun found => verdict p.options found c.payload
  else none

def turn (p : Policy) (env : Environment) (c : Call) (s : Session) : Turn :=
  ⟨c, p.refusal? env c s, (p.call env c s).1⟩

def messageTurns (p : Policy) (env : Environment) (direction : Direction) :
    List Message → Session → List Turn
  | [], _ => []
  | message :: rest, s =>
    p.turn env (.message direction message) s ::
      p.messageTurns env direction rest (p.onMessage env direction message s).2

def turns (p : Policy) : Happening → Session → List Turn
  | .call env c, s => [p.turn env c s]
  | .stream env direction messages, s => p.messageTurns env direction messages s
  | .cancel, _ => []

/-- All turns of a run, in their order. -/
def history (p : Policy) : List Happening → Session → List Turn
  | [], _ => []
  | happening :: rest, s => p.turns happening s ++ p.history rest (p.step happening s).2

section Turns

variable {p : Policy} {env : Environment} {c : Call} {s : Session}

theorem refusal?_of_finds {found : Except SchemaError Schema} (seeks : p.Seeks c)
    (h : p.Finds env (c.engine env) s found) :
    p.refusal? env c s = verdict p.options found c.payload := by
  rw [refusal?, if_pos ⟨h.live, seeks⟩, sought, h.ends, Option.bind_some]

theorem refusal?_eq_some_iff {refusal : Refusal} :
    p.refusal? env c s = some refusal ↔
      ∃ found, p.Seeks c ∧ p.Finds env (c.engine env) s found ∧
        verdict p.options found c.payload = some refusal := by
  constructor
  · intro h
    rw [refusal?] at h
    split at h
    · next reached =>
      obtain ⟨found, ends, judged⟩ := Option.bind_eq_some_iff.1 h
      exact ⟨found, reached.2, ⟨reached.1, ends⟩, judged⟩
    · cases h
  · rintro ⟨found, seeks, finds, judged⟩
    rw [refusal?_of_finds seeks finds, judged]

theorem refusal?_of_not_judged
    (h : ∀ found, p.Seeks c → ¬ p.Finds env (c.engine env) s found) :
    p.refusal? env c s = none := by
  refine Option.eq_none_iff_forall_ne_some.2 fun refusal refused => ?_
  obtain ⟨found, seeks, finds, -⟩ := refusal?_eq_some_iff.1 refused
  exact h found seeks finds

theorem refusal?_of_idle {answer : Answer} (idle : p.idle? c = some answer) :
    p.refusal? env c s = none := by
  refine refusal?_of_not_judged fun found seeks _ => ?_
  simp [idle?_of_seeks seeks] at idle

theorem recorded_call (p : Policy) (env : Environment) (c : Call) (s : Session) :
    (p.call env c s).2.recorded? = ((p.refusal? env c s).map Refusal.detail).or s.recorded? := by
  rcases p.call_cases env c s with
    ⟨answer, idle⟩ | ⟨used, unjudged, next, abandoned, kept⟩ | ⟨found, seeks, finds⟩
  · rw [refusal?_of_idle idle, call_of_idle idle]
    rfl
  · rw [refusal?_of_not_judged unjudged, abandoned]
    exact kept
  · rw [refusal?_of_finds seeks finds, call_of_finds seeks finds]
    rfl

theorem accounts_call (p : Policy) (env : Environment) (c : Call) (s : Session) :
    Accounts p (p.turn env c s) := by
  rcases p.call_cases env c s with
    ⟨answer, idle⟩ | ⟨used, unjudged, next, abandoned, kept⟩ | ⟨found, seeks, finds⟩
  · rw [turn, refusal?_of_idle idle, call_of_idle idle]
    exact .idle idle
  · rw [turn, refusal?_of_not_judged unjudged, abandoned]
    exact .abandoned used
  · rw [turn, refusal?_of_finds seeks finds]
    by_cases cut : (p.waits env (c.engine env) c.phase? (verdict p.options found c.payload)).cutOff = true
    · -- Only a refusal is worded, so a call that is cut off by then has one.
      rw [call_of_finds seeks finds]
      cases judged : verdict p.options found c.payload with
      | none => simp [judged, cutOff_waits_valid] at cut
      | some refusal =>
        rw [judged] at cut
        simp only [cut, if_true]
        exact .unheard
    · have shows := shows_of_concludes seeks ⟨finds, Bool.eq_false_iff.2 cut⟩
      cases judged : verdict p.options found c.payload with
      | none =>
        rw [(shows.valid judged).1]
        exact .valid seeks
      | some refusal => exact .refused (shows.refused refusal judged).1

theorem refuses_call (prompt : env.Prompt) {refusal : Refusal}
    (refused : p.refusal? env c s = some refusal) : Refuses p c refusal (p.call env c s).1 := by
  obtain ⟨found, seeks, finds, judged⟩ := refusal?_eq_some_iff.1 refused
  have concludes := finds.concludes (Call.prompt_engine prompt c) c.phase? c.payload
  exact ((shows_of_concludes seeks concludes).refused refusal judged).1

theorem messageTurns_eq_history (p : Policy) (env : Environment) (direction : Direction)
    (messages : List Message) (s : Session) :
    p.messageTurns env direction messages s =
      p.history (messages.map fun message => .call env (.message direction message)) s := by
  induction messages generalizing s with
  | nil => rfl
  | cons message messages ih =>
    rw [messageTurns, ih]
    rfl

theorem history_append (p : Policy) (before after : List Happening) (s : Session) :
    p.history (before ++ after) s = p.history before s ++ p.history after (p.run before s).2 := by
  induction before generalizing s with
  | nil => rfl
  | cons happening before ih => rw [List.cons_append, history, ih, history, run_cons, List.append_assoc]

/-- The turns of a run are its calls and its answers, each accounted for, and the last refusal among them is
what the run leaves recorded. -/
structure Recounts (p : Policy) (happenings : List Happening) (s : Session) (turns : List Turn) :
    Prop where
  calls : turns.map Turn.call = happenings.flatMap Happening.calls
  answers : turns.map Turn.answer = (p.run happenings s).1
  accounts : ∀ turn ∈ turns, Accounts p turn
  heard : (∀ happening ∈ happenings, happening.Prompt) →
    ∀ turn ∈ turns, ∀ refusal, turn.refusal? = some refusal → Refuses p turn.call refusal turn.answer
  recorded : (p.run happenings s).2.recorded? =
    ((lastRefusal? turns).map Refusal.detail).or s.recorded?

theorem Recounts.cons {happening : Happening} {rest : List Happening} {now later : List Turn}
    (first : Recounts p [happening] s now)
    (others : Recounts p rest (p.step happening s).2 later) :
    Recounts p (happening :: rest) s (now ++ later) where
  calls := by
    have calls := first.calls
    rw [List.flatMap_singleton] at calls
    rw [List.map_append, calls, others.calls, List.flatMap_cons]
  answers := by
    have answers := first.answers
    rw [run_cons, run, List.append_nil] at answers
    rw [List.map_append, answers, others.answers, run_cons]
  accounts turn member := by
    rcases List.mem_append.1 member with early | late
    · exact first.accounts turn early
    · exact others.accounts turn late
  heard prompt turn member := by
    rcases List.mem_append.1 member with early | late
    · exact first.heard (by simpa using prompt happening List.mem_cons_self) turn early
    · exact others.heard (fun other among => prompt other (.tail _ among)) turn late
  recorded := by
    have recorded := first.recorded
    rw [run_cons, run] at recorded
    rw [run_cons, others.recorded, recorded, lastRefusal?_append, Option.map_or, Option.or_assoc]

theorem recounts_nil (p : Policy) (s : Session) : Recounts p [] s [] where
  calls := rfl
  answers := rfl
  accounts := by simp
  heard := by simp
  recorded := by rw [lastRefusal?_nil, Option.map_none, Option.none_or, run]

theorem recounts_call (p : Policy) (env : Environment) (c : Call) (s : Session) :
    Recounts p [.call env c] s [p.turn env c s] where
  calls := rfl
  answers := rfl
  accounts turn member := by
    rw [List.mem_singleton.1 member]
    exact accounts_call p env c s
  heard prompt turn member refusal refused := by
    obtain rfl := List.mem_singleton.1 member
    exact refuses_call (prompt _ List.mem_cons_self) refused
  recorded := by
    rw [lastRefusal?_singleton]
    exact recorded_call p env c s

theorem recounts_calls (p : Policy) (env : Environment) (calls : List Call) (s : Session) :
    Recounts p (calls.map (.call env)) s (p.history (calls.map (.call env)) s) := by
  induction calls generalizing s with
  | nil => exact recounts_nil p s
  | cons c calls ih => exact (recounts_call p env c s).cons (ih _)

theorem recounts_turns (p : Policy) (happening : Happening) (s : Session) :
    Recounts p [happening] s (p.turns happening s) := by
  cases happening with
  | call env c => exact recounts_call p env c s
  | stream env direction messages =>
    have each := recounts_calls p env (messages.map (.message direction)) s
    rw [List.map_map] at each
    have same : p.run [.stream env direction messages] s =
        p.run (messages.map fun message => .call env (.message direction message)) s := by
      rw [run_cons, run, step_stream, List.append_nil]
    rw [turns, messageTurns_eq_history]
    refine ⟨each.calls.trans ?_, each.answers.trans (congrArg Prod.fst same.symm), each.accounts,
      fun prompt => each.heard fun happening member => ?_, ?_⟩
    · rw [← List.map_map, List.flatMap_map, List.flatMap_singleton]
      exact List.flatMap_singleton' _
    · obtain ⟨message, -, rfl⟩ := List.mem_map.1 member
      exact prompt (.stream env direction messages) List.mem_cons_self
    · rw [same]
      exact each.recorded
  | cancel =>
    refine ⟨rfl, rfl, by simp [turns], by simp [turns], ?_⟩
    rw [turns, lastRefusal?_nil, Option.map_none, Option.none_or]
    rfl

theorem recounts_history (p : Policy) (happenings : List Happening) (s : Session) :
    Recounts p happenings s (p.history happenings s) := by
  induction happenings generalizing s with
  | nil => exact recounts_nil p s
  | cons happening rest ih => exact (recounts_turns p happening s).cons (ih _)

end Turns

/-- Whatever the calls of a run, its prefixes included, are answered with, the text that it leaves recorded
is that of the last refusal, and what was recorded before if there was none.  The refusals are those of the
calls that get as far as judging their payloads, the messages of a stream one by one; all other calls leave
the text alone. -/
theorem recorded_is_last_refusal (p : Policy) :
    (∀ happenings s, Recounts p happenings s (p.history happenings s)) ∧
    (∀ happenings s, s.recorded? = none →
      (p.run happenings s).2.recorded? =
        (lastRefusal? (p.history happenings s)).map Refusal.detail) ∧
    (∀ before after s,
      p.history (before ++ after) s = p.history before s ++ p.history after (p.run before s).2) ∧
    (∀ env c s, p.history [.call env c] s = [⟨c, p.refusal? env c s, (p.call env c s).1⟩]) ∧
    (∀ env direction messages s,
      p.history [.stream env direction messages] s =
          p.history (messages.map fun message => .call env (.message direction message)) s ∧
        p.step (.stream env direction messages) s =
          p.run (messages.map fun message => .call env (.message direction message)) s) ∧
    ∀ env c s refusal, p.refusal? env c s = some refusal ↔
      ∃ found, p.Seeks c ∧ p.Finds env (c.engine env) s found ∧
        verdict p.options found c.payload = some refusal := by
  refine ⟨recounts_history p, fun happenings s absent => ?_, history_append p,
    fun env c s => rfl, fun env direction messages s => ⟨?_, step_stream p env direction messages s⟩,
    fun env c s refusal => refusal?_eq_some_iff⟩
  · rw [(recounts_history p happenings s).recorded, absent, Option.or_none]
  · rw [history, history, List.append_nil]
    exact messageTurns_eq_history p env direction messages s

end Rules

/-- A message is let through although it breaks its schema, and is recorded; the next one, a body that is
not covered and a record without handling leave that text alone.  A record that is marked and a body whose
failure cannot be worded override it, and a message after the cancellation does not. -/
theorem recorded_is_last_refusal_mixed_surfaces :
    let p : Policy :=
      { resolver := .lookup ⟨"schemas", "{message.id}"⟩, options := {}, messageExpression? := some "\x7b"
        straightRespond := true, scope := .request, publish? := none
        subscribe? := some (.addRecordHeader "X-Invalid") }
    let registry := (Registry.register .empty (.ofSubject "open" "true")).register
      (.ofSubject "shut" "false")
    let host := Host.ofAttributes (NameMap.empty.insert "schemas" registry.service) .empty
    let message (id : String) : Message := { id? := some id, content := Utf8.encode "1" }
    let record : Broker.Message := { topic := "a", partition := 0, offset := 3, content := [] }
    let before : List Happening :=
      [.stream host .response [message "shut", message "open"],
        .call host (.content .response ⟨[], true⟩), .call host (.publish { topics := [] } record)]
    let after : List Happening :=
      [.call host (.subscribe { topics := [] } record), .call host (.body .request (Utf8.encode "1")),
        .cancel, .call host (.message .request (message "shut"))]
    let broken : Refusal := .payload "payload violates schema 'shut': False schema does not allow 1"
    let unnamed : Refusal :=
      .noSchema "unable to resolve schema name: '{message.id}' produced no value"
    ({} : Session).recorded? = none ∧
      (p.history (before ++ after) {}).map Turn.refusal? =
        [some broken, none, none, none, some unnamed, some unnamed, none] ∧
      (p.run before {}).2.recorded? = some broken.detail ∧
      (p.run (before ++ after) {}).2.recorded? = some unnamed.detail := by
  intro p registry host message record before after broken unnamed
  have early : (p.history before {}).map Turn.refusal? = [some broken, none, none, none] := by
    decide +kernel
  have late : (p.history after (p.run before {}).2).map Turn.refusal? =
      [some unnamed, some unnamed, none] := by decide +kernel
  obtain ⟨-, last, joined, -⟩ := recorded_is_last_refusal p
  refine ⟨rfl, ?_, ?_, ?_⟩
  · rw [joined, List.map_append, early, late]
    rfl
  · rw [last before {} rfl]
    decide +kernel
  · rw [last (before ++ after) {} rfl]
    decide +kernel

end Policy

end SchemaGate

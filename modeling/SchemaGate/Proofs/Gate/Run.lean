import SchemaGate.Proofs.Gate.Call

/-!
# Runs

What one policy does for one event, over any number of calls.  Main statements: `run_append` takes a run
apart, `run_of_cancelled` says that a cancelled event only turns calls away, and `step_stream` that a
stream is the run of its messages.
-/

namespace SchemaGate

/-- What befalls an event: a call, a stream of messages, or its cancellation.  A call comes with its
environment as it is by then, so that registries may change from call to call. -/
inductive Happening where
  | call (env : Environment) (call : Call)
  | stream (env : Environment) (direction : Direction) (messages : List Message)
  | cancel

def Happening.calls : Happening → List Call
  | .call _ c => [c]
  | .stream _ direction messages => messages.map (.message direction)
  | .cancel => []

namespace Policy

variable [RuleSystem]

def step (p : Policy) : Happening → Session → List Answer × Session
  | .call env c, s =>
    let (answer, s) := p.call env c s
    ([answer], s)
  | .stream env direction messages, s =>
    let (results, s) := p.onMessages env direction messages s
    (results.map .message, s)
  | .cancel, s => ([], { s with cancelled := true })

/-- The answers of all calls, in their order, and the session that is left. -/
def run (p : Policy) : List Happening → Session → List Answer × Session
  | [], s => ([], s)
  | happening :: rest, s =>
    let (answers, s) := p.step happening s
    let (later, s) := p.run rest s
    (answers ++ later, s)

theorem run_cons (p : Policy) (happening : Happening) (rest : List Happening) (s : Session) :
    p.run (happening :: rest) s =
      ((p.step happening s).1 ++ (p.run rest (p.step happening s).2).1,
        (p.run rest (p.step happening s).2).2) := rfl

theorem run_append (p : Policy) (before after : List Happening) (s : Session) :
    p.run (before ++ after) s =
      ((p.run before s).1 ++ (p.run after (p.run before s).2).1,
        (p.run after (p.run before s).2).2) := by
  induction before generalizing s with
  | nil => rfl
  | cons happening before ih => rw [List.cons_append, run_cons, ih, run_cons, List.append_assoc]

theorem step_stream (p : Policy) (env : Environment) (direction : Direction) (messages : List Message)
    (s : Session) :
    p.step (.stream env direction messages) s =
      p.run (messages.map fun message => .call env (.message direction message)) s := by
  induction messages generalizing s with
  | nil => rfl
  | cons message messages ih =>
    rw [List.map_cons, run_cons, ← ih]
    rfl

section Cancelled

variable {s : Session}

theorem run_calls_of_cancelled (h : s.cancelled = true) (p : Policy) (env : Environment) (calls : List Call) :
    p.run (calls.map (.call env)) s = (calls.map p.turnedAway, s) := by
  induction calls with
  | nil => rfl
  | cons c calls ih =>
    rw [List.map_cons, run_cons, step, call_of_cancelled h, ih]
    rfl

theorem step_of_cancelled (h : s.cancelled = true) (p : Policy) (happening : Happening) :
    p.step happening s = (happening.calls.map p.turnedAway, s) := by
  cases happening with
  | call env c =>
    rw [step, call_of_cancelled h]
    rfl
  | stream env direction messages =>
    have turned := run_calls_of_cancelled h p env (messages.map (.message direction))
    rw [List.map_map] at turned
    rw [step_stream]
    exact turned
  | cancel =>
    rw [step, ← h]
    rfl

theorem run_of_cancelled (h : s.cancelled = true) (p : Policy) (happenings : List Happening) :
    p.run happenings s = ((happenings.flatMap Happening.calls).map p.turnedAway, s) := by
  induction happenings with
  | nil => rfl
  | cons happening rest ih =>
    rw [run_cons, step_of_cancelled h, ih, List.flatMap_cons, List.map_append]

end Cancelled

end Policy

end SchemaGate

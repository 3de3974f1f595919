/-!
# Work that is waited for

What a host does for an event may take any number of polls, and the event may be cancelled between two of
them or by one of them.  Main statement: `raced?_eq_some_iff`, on the work that is waited for to the end.
-/

namespace SchemaGate

/-- The polls of work that the host does for an event: those that leave it pending, each with whether the
event is cancelled before the next, and then the last, which may cancel the event itself. -/
structure Polls where
  pending : List Bool := []
  cancels : Bool := false
deriving DecidableEq, Repr

namespace Polls

/-- The event is found cancelled before the last poll. -/
def cutOff (polls : Polls) : Bool :=
  polls.pending.contains true

/-- Polls that begin within one that has cancelled the event, or has not; it shows at the next. -/
def after (cancelled : Bool) (polls : Polls) : Polls where
  pending := polls.pending.modifyHead (cancelled || ·)
  cancels := cancelled || polls.cancels

@[simp] theorem after_false (polls : Polls) : polls.after false = polls := by
  obtain ⟨pending, cancels⟩ := polls
  cases pending <;> rfl

@[simp] theorem pending_after_eq_nil_iff {polls : Polls} {cancelled : Bool} :
    (polls.after cancelled).pending = [] ↔ polls.pending = [] := by
  obtain ⟨pending, cancels⟩ := polls
  cases pending <;> simp [after]

theorem cutOff_of_pending {polls : Polls} (h : polls.pending = []) : polls.cutOff = false := by
  rw [cutOff, h]
  rfl

end Polls

/-- Work of the host: its polls, and its result, if it ever ends. -/
structure Awaited (α : Type) extends Polls where
  result? : Option α

namespace Awaited

variable {α β : Type}

def done (a : α) : Awaited α where
  result? := some a

def map (f : α → β) (work : Awaited α) : Awaited β :=
  ⟨work.toPolls, work.result?.map f⟩

/-- The result of pending work, if the event is not found cancelled before one of its polls. -/
def race (result? : Option α) (cancelled : Bool) (pending : List Bool) : Option α :=
  if cancelled then none
  else match pending with
    | [] => result?
    | cancelled :: pending => race result? cancelled pending

/-- The result of work that is begun for a live event and left as soon as the event is cancelled. -/
def raced? (work : Awaited α) : Option α :=
  race work.result? false work.pending

theorem race_eq_some_iff {result? : Option α} {cancelled : Bool} {pending : List Bool} {a : α} :
    race result? cancelled pending = some a ↔
      true ∉ cancelled :: pending ∧ result? = some a := by
  induction pending generalizing cancelled with
  | nil => cases cancelled <;> simp [race]
  | cons next pending ih => cases cancelled <;> simp [race, ih]

theorem raced?_eq_some_iff {work : Awaited α} {a : α} :
    work.raced? = some a ↔ true ∉ work.pending ∧ work.result? = some a := by
  simp [raced?, race_eq_some_iff]

theorem raced?_eq_none_iff {work : Awaited α} :
    work.raced? = none ↔ true ∈ work.pending ∨ work.result? = none := by
  by_cases seen : true ∈ work.pending <;>
    simp [Option.eq_none_iff_forall_ne_some, raced?_eq_some_iff, seen]

end Awaited

end SchemaGate

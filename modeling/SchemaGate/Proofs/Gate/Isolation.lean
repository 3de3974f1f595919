import SchemaGate.Proofs.Gate.Cancellation

/-!
# Messages of one stream

The messages of a stream share what the engine keeps, what is recorded and the event.  Main statement: none
of it shows in their outcomes, so each has the outcome that it has alone, until a look-up cancels the event.
-/

namespace SchemaGate

/-- The work comes to an end, and the event is not cancelled before its last poll. -/
structure Awaited.Completes {α : Type} (work : Awaited α) : Prop where
  undisturbed : true ∉ work.pending
  ends : work.result?.isSome = true

/-- The work comes to an end and leaves the event alone. -/
structure Awaited.Settles {α : Type} (work : Awaited α) : Prop extends work.Completes where
  quiet : work.cancels = false

/-- Every registry answers for every subject, and none cancels the event. -/
def Resources.Steady (resources : Resources) : Prop :=
  ∀ name service, resources.get? name = some service → ∀ subject, (service subject).Settles

section Searches

variable {α β : Type}

theorem Awaited.settles_done (a : α) : (Awaited.done a).Settles :=
  ⟨⟨by simp [Awaited.done], rfl⟩, rfl⟩

theorem Awaited.Settles.map {work : Awaited α} (h : work.Settles) (f : α → β) :
    (work.map f).Settles := by
  refine ⟨⟨h.undisturbed, ?_⟩, h.quiet⟩
  have ends := h.ends
  simpa [Awaited.map] using ends

theorem Awaited.Completes.exists_raced? {work : Awaited α} (h : work.Completes) :
    ∃ a, work.raced? = some a := by
  obtain ⟨a, result⟩ := Option.isSome_iff_exists.1 h.ends
  exact ⟨a, Awaited.raced?_eq_some_iff.2 ⟨h.undisturbed, result⟩⟩

theorem Resources.Steady.settles_seek {resources : Resources} (steady : resources.Steady)
    (resolver : Resolver) (evaluate : Evaluator) :
    (resolver.seek resources { evaluate }).Settles := by
  rw [Resolver.seek_evaluate]
  cases resolver with
  | fixed schema => exact Awaited.settles_done _
  | lookup route =>
    simp only [Resolver.resolve, RegistryRoute.resolve]
    cases known : resources.get? route.resource with
    | none => exact Awaited.settles_done _
    | some service =>
      cases named : route.subject evaluate with
      | error error => exact Awaited.settles_done _
      | ok subject => exact (steady _ _ known subject).map _

end Searches

/-- Messages that arrive one by one, each with the host as it is by then. -/
def arrivals (direction : Direction) (items : List (Host × Message)) : List Happening :=
  items.map fun item => .call item.1 (.message direction item.2)

namespace Policy

section Rules

variable [RuleSystem]

def alone (p : Policy) (env : Environment) (direction : Direction) (message : Message) :
    Except PolicyError MessageOutcome :=
  (p.onMessage env direction message {}).1

variable {p : Policy} {host : Host} {direction : Direction} {message : Message} {s : Session}

theorem finds_of_completes (live : s.cancelled = false)
    (h : (p.sought host (.message direction message)).Completes) :
    ∃ found, p.Finds host { evaluate := host.evaluateFor message.bindings } s found := by
  obtain ⟨found, ends⟩ := h.exists_raced?
  exact ⟨found, live, ends⟩

theorem onMessage_fst (live : s.cancelled = false)
    (h : (p.sought host (.message direction message)).Completes) :
    (p.onMessage host direction message s).1 = p.alone host direction message := by
  obtain ⟨found, finds⟩ := finds_of_completes live h
  have fresh : p.Finds host { evaluate := host.evaluateFor message.bindings } {} found :=
    ⟨rfl, finds.ends⟩
  rw [alone, onMessage_of_finds direction message finds, onMessage_of_finds direction message fresh]

theorem cancelled_onMessage (live : s.cancelled = false)
    (h : (p.sought host (.message direction message)).Completes) :
    (p.onMessage host direction message s).2.cancelled =
      (p.sought host (.message direction message)).cancels := by
  obtain ⟨found, finds⟩ := finds_of_completes live h
  rw [onMessage_of_finds direction message finds]
  exact congrArg (fun polls : Polls => polls.cutOff || polls.cancels)
    (waits_evaluate p host (host.evaluateFor message.bindings) _ _)

/-- A look-up that cancels the event and answers all the same has no say in the outcome. -/
theorem alone_quiet (h : (p.sought host (.message direction message)).Completes) :
    p.alone (host : Environment).quiet direction message = p.alone host direction message := by
  obtain ⟨found, finds⟩ := finds_of_completes (s := {}) rfl h
  have prompt : Engine.Prompt { evaluate := host.evaluateFor message.bindings } := fun _ => rfl
  have uncut (env : Environment) := cutOff_waits prompt p env (some (.ofMessage direction))
    (verdict p.options found message.content)
  have quiet := onMessage_of_finds direction message finds.quiet
  have plain := onMessage_of_finds direction message finds
  rw [alone, alone, quiet, plain]
  exact (if_neg (Bool.eq_false_iff.1 (uncut _))).trans (if_neg (Bool.eq_false_iff.1 (uncut _))).symm

theorem run_arrivals_cons (item : Host × Message) (items : List (Host × Message)) :
    p.run (arrivals direction (item :: items)) s =
      (.message (p.onMessage item.1 direction item.2 s).1 ::
          (p.run (arrivals direction items) (p.onMessage item.1 direction item.2 s).2).1,
        (p.run (arrivals direction items) (p.onMessage item.1 direction item.2 s).2).2) := rfl

theorem run_arrivals {items : List (Host × Message)} (live : s.cancelled = false)
    (settles : ∀ item ∈ items, (p.sought item.1 (.message direction item.2)).Settles) :
    (p.run (arrivals direction items) s).1 =
        items.map (fun item => .message (p.alone item.1 direction item.2)) ∧
      (p.run (arrivals direction items) s).2.cancelled = false := by
  induction items generalizing s with
  | nil => exact ⟨rfl, live⟩
  | cons item items ih =>
    have first := settles item (by simp)
    have still : (p.onMessage item.1 direction item.2 s).2.cancelled = false := by
      rw [cancelled_onMessage live first.toCompletes]
      exact first.quiet
    obtain ⟨answers, left⟩ := ih still fun other member => settles other (by simp [member])
    rw [run_arrivals_cons, onMessage_fst live first.toCompletes, answers]
    exact ⟨rfl, left⟩

theorem run_arrivals_of_cancelled (h : s.cancelled = true) (items : List (Host × Message)) :
    (p.run (arrivals direction items) s).1 = items.map fun _ => .message (.error .cancelled) := by
  induction items with
  | nil => rfl
  | cons item items ih =>
    have away : p.onMessage item.1 direction item.2 s = (.error .cancelled, s) := by
      rw [onMessage, check_of_cancelled h]
    rw [run_arrivals_cons, away, ih, List.map_cons]

/-- The look-up that cancels the event is the last of which the message has an outcome. -/
theorem run_arrivals_of_cancels {before after : List (Host × Message)} {item : Host × Message}
    (live : s.cancelled = false)
    (settles : ∀ earlier ∈ before, (p.sought earlier.1 (.message direction earlier.2)).Settles)
    (completes : (p.sought item.1 (.message direction item.2)).Completes)
    (cancels : (p.sought item.1 (.message direction item.2)).cancels = true) :
    (p.run (arrivals direction (before ++ item :: after)) s).1 =
      (before ++ [item]).map (fun item => .message (p.alone item.1 direction item.2)) ++
        after.map fun _ => .message (.error .cancelled) := by
  obtain ⟨answers, left⟩ := run_arrivals live settles
  have cancelled := (cancelled_onMessage left completes).trans cancels
  have split : arrivals direction (before ++ item :: after) =
      arrivals direction before ++ arrivals direction (item :: after) := List.map_append
  rw [split, run_append, answers, run_arrivals_cons, onMessage_fst left completes,
    run_arrivals_of_cancelled cancelled]
  simp

theorem step_stream_eq_run_arrivals (p : Policy) (host : Host) (direction : Direction)
    (messages : List Message) (s : Session) :
    p.step (.stream host direction messages) s =
      p.run (arrivals direction (messages.map (host, ·))) s := by
  rw [step_stream, arrivals, List.map_map]
  rfl

theorem onMessages_fst (live : s.cancelled = false) (steady : host.resources.Steady)
    (messages : List Message) :
    (p.onMessages host direction messages s).1 = messages.map (p.alone host direction) := by
  have settles : ∀ item ∈ messages.map (host, ·),
      (p.sought item.1 (.message direction item.2)).Settles := by
    intro item member
    obtain ⟨message, -, rfl⟩ := List.mem_map.1 member
    exact steady.settles_seek p.resolver _
  have answers := (run_arrivals live settles).1
  rw [← step_stream_eq_run_arrivals, List.map_map] at answers
  have injective : Function.Injective Answer.message := fun _ _ => Answer.message.inj
  refine List.map_injective_iff.2 injective ?_
  rw [List.map_map]
  exact answers

/-- A stream has one outcome for each message, in their order, and each is the one that its message has
alone; which messages come before and after does not matter, nor what becomes of them.  A look-up that
cancels the event and ends leaves the outcomes so far as they would be without the cancellation, its own
message's included, and cuts off the rest; registries may change from message to message.  A stream is the
run of its messages, so all this is said of streams. -/
theorem stream_isolates (p : Policy) (direction : Direction) (s : Session)
    (live : s.cancelled = false) :
    (∀ host : Host, host.resources.Steady → ∀ messages,
      (p.onMessages host direction messages s).1 = messages.map (p.alone host direction)) ∧
    (∀ host : Host, host.resources.Steady → ∀ before message after,
      (p.onMessages host direction (before ++ message :: after) s).1[before.length]? =
        some (p.alone host direction message)) ∧
    (∀ (before : List (Host × Message)) item after,
      (∀ earlier ∈ before, (p.sought earlier.1 (.message direction earlier.2)).Settles) →
      (p.sought item.1 (.message direction item.2)).Completes →
      (p.sought item.1 (.message direction item.2)).cancels = true →
        (p.run (arrivals direction (before ++ item :: after)) s).1 =
          (before ++ [item]).map (fun item =>
            .message (p.alone (item.1 : Environment).quiet direction item.2)) ++
            after.map fun _ => .message (.error .cancelled)) ∧
    ∀ (host : Host) messages, p.step (.stream host direction messages) s =
      p.run (arrivals direction (messages.map (host, ·))) s := by
  refine ⟨fun host steady messages => onMessages_fst live steady messages,
    fun host steady before message after => ?_, fun before item after settles completes cancels => ?_,
    fun host messages => step_stream_eq_run_arrivals p host direction messages s⟩
  · rw [onMessages_fst live steady]
    simp
  · have quiet : (before ++ [item]).map
          (fun item => Answer.message (p.alone (item.1 : Environment).quiet direction item.2)) =
        (before ++ [item]).map fun item => .message (p.alone item.1 direction item.2) := by
      refine List.map_congr_left fun other member => ?_
      have ends : (p.sought other.1 (.message direction other.2)).Completes := by
        rcases List.mem_append.1 member with earlier | same
        · exact (settles other earlier).toCompletes
        · obtain rfl := List.mem_singleton.1 same
          exact completes
      rw [alone_quiet ends]
    rw [quiet]
    exact run_arrivals_of_cancels live settles completes cancels

end Rules

/-- A message whose failure cannot be worded, one that passes and one that is refused: each comes back as
if it were alone.  A registry that cancels the event for the second of three messages cuts off the third
only. -/
theorem stream_isolates_mixed_messages :
    let p : Policy :=
      { resolver := .lookup ⟨"schemas", "{message.id}"⟩, options := {}
        messageExpression? := some "refused", straightRespond := false, scope := .request
        publish? := none, subscribe? := none }
    let answer (subject : String) : Except SchemaError (Option Schema) :=
      .ok (if subject = "open" then some (.ofSubject "open" "true") else none)
    let host (cancels : Bool) : Host :=
      { resources := NameMap.empty.insert "schemas" fun subject =>
          { pending := [false], cancels, result? := some (answer subject) }
        evaluate := Template.evaluate fun _ => none
        evaluateFor := fun bindings expression =>
          if expression = "refused" ∧ bindings.get? "message.id" = some "mute" then
            .error (.evaluation "no words")
          else Template.evaluate bindings.get? expression }
    let message (id : String) : Message := { id? := some id, content := Utf8.encode "1" }
    let s : Session := { recorded? := some "earlier" }
    let refused : MessageOutcome :=
      .interrupt ⟨400, "JSON_INVALID_MESSAGE_REQUEST_FORMAT", "refused", "application/json"⟩
    (host false).resources.Steady ∧
      (p.onMessages (host false) .request [message "mute", message "open", message "shut"] s).1 =
        [.error (.errorMessage (.evaluation "no words")), .ok (.forward (message "open")),
          .ok refused] ∧
      (p.onMessages (host false) .request [message "mute", message "open", message "shut"] s).1[1]? =
        some (p.alone (host false) .request (message "open")) ∧
      (p.sought (host true) (.message .request (message "shut"))).Completes ∧
      (p.run (arrivals .request [(host false, message "open"), (host true, message "shut"),
          (host false, message "open")]) s).1 =
        [.message (.ok (.forward (message "open"))), .message (.ok refused),
          .message (.error .cancelled)] := by
  intro p answer host message s refused
  have steady : (host false).resources.Steady := by
    intro name service found subject
    have known : name = "schemas" ∧ (fun subject =>
        { pending := [false], cancels := false, result? := some (answer subject) }) = service := by
      simpa [host] using found
    rw [← known.2]
    exact ⟨⟨by simp, rfl⟩, rfl⟩
  have completes : (p.sought (host true) (.message .request (message "shut"))).Completes :=
    ⟨by decide +kernel, by decide +kernel⟩
  obtain ⟨each, others, cut, -⟩ := stream_isolates p .request s rfl
  refine ⟨steady, ?_, ?_, completes, ?_⟩
  · rw [each (host false) steady]
    decide +kernel
  · exact others (host false) steady [message "mute"] (message "open") [message "shut"]
  · have answers := cut [(host false, message "open")] (host true, message "shut")
      [(host false, message "open")] ?_ completes (by decide +kernel)
    · refine answers.trans ?_
      decide +kernel
    · intro earlier member
      obtain rfl := List.mem_singleton.1 member
      exact steady.settles_seek p.resolver _

end Policy

end SchemaGate

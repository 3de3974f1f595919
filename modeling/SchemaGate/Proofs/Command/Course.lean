import SchemaGate.Proofs.Command.Stages

/-!
# The courses of a check

A payload that is refused may be kept back or go through, and what is recorded tells it from one that is
valid.  Main statement: what is found by a check's call and what it leaves recorded follow one of four
courses.
-/

namespace SchemaGate

/-- Why a refused payload goes through at a call. -/
inductive Spares (p : Policy) (c : Call) (refusal : Refusal) : Prop where
  | straight {phase : Phase} (mode : p.straightRespond = true) (phased : c.phase? = some phase)
      (allowed : phase ≠ .request) (resolved : refusal.unresolved = false) : Spares p c refusal
  | marked {response : Broker.FetchResponse} {message : Broker.Message} {name : String}
      (fetch : c = .subscribe response message)
      (marks : p.subscribe? = some (.addRecordHeader name)) : Spares p c refusal

/-- The call gets as far as judging its payload, with this verdict. -/
structure Judged (p : Policy) (host : Host) (c : Call) (refusal? : Option Refusal) : Prop where
  seeks : p.Seeks c
  decided : ∃ found, p.Finds host (c.engine host) {} found ∧
    verdict p.options found c.payload = refusal?

namespace Answer

def delivers : Answer → Bool
  | .body (.ok .pass) => true
  | .message (.ok (.forward _)) => true
  | .content (.ok (.forward _)) => true
  | .publish (.ok (.accept _)) => true
  | .subscribe (.ok (.accept _)) _ => true
  | _ => false

/-- The failure that stands in for the payload, at a surface that answers with one. -/
def failure? : Answer → Option Failure
  | .body (.ok (.interrupt failure)) => some failure
  | .message (.ok (.interrupt failure)) => some failure
  | .content (.ok (.fail failure)) => some failure
  | _ => none

def rejection? : Answer → Option FailureKind
  | .publish (.ok (.interrupt _ kind)) => some kind
  | .subscribe (.ok (.interrupt kind)) _ => some kind
  | _ => none

def Blocks (answer : Answer) : Prop :=
  answer.failure?.isSome = true ∨ answer.rejection?.isSome = true

end Answer

theorem Judged.unique {p : Policy} {host : Host} {c : Call} {refusal? other? : Option Refusal}
    (h : Judged p host c refusal?) (h' : Judged p host c other?) : refusal? = other? := by
  obtain ⟨-, found, finds, rfl⟩ := h
  obtain ⟨-, found', finds', rfl⟩ := h'
  obtain rfl := Option.some.inj (finds.ends.symm.trans finds'.ends)
  rfl

theorem Policy.failure?_some_eq_ok_none_iff {p : Policy} {phase : Phase} {buffered : Bool}
    {evaluate : Evaluator} {refusal : Refusal} :
    p.failure? phase buffered evaluate (some refusal) = .ok none ↔
      p.straightRespond = true ∧ phase ≠ .request ∧ refusal.unresolved = false := by
  constructor
  · intro through
    rcases p.failure?_some_cases phase buffered evaluate refusal with
      ⟨mode, allowed, resolved, -⟩ | ⟨failure, -, failed⟩ | ⟨fault, unworded⟩
    · exact ⟨mode, allowed, resolved⟩
    · rw [failed] at through
      cases through
    · rw [unworded] at through
      cases through
  · rintro ⟨mode, allowed, resolved⟩
    exact if_pos (by simp [mode, Phase.allowsStraightRespond, allowed, resolved])

theorem spares_iff_of_phase? {p : Policy} {c : Call} {phase : Phase} (phased : c.phase? = some phase)
    (refusal : Refusal) :
    Spares p c refusal ↔
      p.straightRespond = true ∧ phase ≠ .request ∧ refusal.unresolved = false := by
  constructor
  · intro spares
    cases spares with
    | straight mode other allowed resolved =>
      obtain rfl := Option.some.inj (phased.symm.trans other)
      exact ⟨mode, allowed, resolved⟩
    | marked fetch marks =>
      subst fetch
      cases phased
  · rintro ⟨mode, allowed, resolved⟩
    exact .straight mode phased allowed resolved

namespace Command

variable {answer : Answer} {found : Finding}

theorem finding_eq_passed_iff : finding answer = .ok .passed ↔ answer.delivers = true := by
  rcases answer with (_ | _ | _) | (_ | _ | _) | (_ | _ | _ | _) | (_ | _ | _) | ⟨_ | _ | _, _⟩ <;>
    simp [finding, Answer.delivers, Except.map, bodyFinding, messageFinding, contentFinding,
      publishFinding, subscribeFinding]

theorem blocks_iff :
    answer.Blocks ↔ ∃ found, finding answer = .ok found ∧
      (found.failure?.isSome = true ∨ found.kind?.isSome = true) := by
  rcases answer with (_ | _ | _) | (_ | _ | _) | (_ | _ | _ | _) | (_ | _ | _) | ⟨_ | _ | _, _⟩ <;>
    simp [Answer.Blocks, Answer.failure?, Answer.rejection?, finding, Except.map, bodyFinding,
      messageFinding, contentFinding, publishFinding, subscribeFinding, Finding.failure?, Finding.kind?]

theorem finding_eq_error_iff {error : PolicyError} :
    finding answer = .error error ↔ answer.error? = some error := by
  rcases answer with (_ | _) | (_ | _) | (_ | _) | (_ | _) | ⟨_ | _, _⟩ <;>
    simp [finding, Answer.error?, Except.map]

theorem parts_of_finding (h : finding answer = .ok found) :
    found.failure? = answer.failure? ∧ found.kind? = answer.rejection? := by
  rcases answer with (_ | _ | _) | (_ | _ | _) | (_ | _ | _ | _) | (_ | _ | _) | ⟨_ | _ | _, _⟩ <;>
    cases h <;> exact ⟨rfl, rfl⟩

/-- What is found of a refused payload. -/
inductive Treats (p : Policy) (c : Call) (refusal : Refusal) : Except PolicyError Finding → Prop where
  | spared (spares : Spares p c refusal) : Treats p c refusal (.ok .passed)
  | answered {failure : Failure} (blocks : ¬ Spares p c refusal) :
      Treats p c refusal (.ok (.answered failure))
  | rejected {partitions : List PartitionReport} (blocks : ¬ Spares p c refusal)
      (nonempty : partitions ≠ []) : Treats p c refusal (.ok (.rejected refusal.kind partitions))
  | unworded {fault : TemplateError} (blocks : ¬ Spares p c refusal) :
      Treats p c refusal (.error (.errorMessage fault))

theorem treats_of_failure? {α : Type} {p : Policy} {c : Call} {phase : Phase}
    (phased : c.phase? = some phase) (buffered : Bool) (evaluate : Evaluator) (refusal : Refusal)
    {pass : α} {interrupt : Failure → α} {found : α → Finding} (passes : found pass = .passed)
    (answers : ∀ failure, found (interrupt failure) = .answered failure) :
    Treats p c refusal (((p.failure? phase buffered evaluate (some refusal)).map fun failure? =>
      failure?.elim pass interrupt).map found) := by
  have spares := @spares_iff_of_phase? p c phase phased refusal
  rw [← @Policy.failure?_some_eq_ok_none_iff p phase buffered evaluate] at spares
  rcases p.failure?_some_cases phase buffered evaluate refusal with
    ⟨-, -, -, through⟩ | ⟨failure, -, failed⟩ | ⟨fault, unworded⟩
  · rw [through, Except.map, Except.map, Option.elim_none, passes]
    exact .spared (spares.2 through)
  · rw [failed] at spares ⊢
    rw [Except.map, Except.map, Option.elim_some, answers]
    exact .answered (by simp [spares])
  · rw [unworded] at spares ⊢
    exact .unworded (by simp [spares])

variable {p : Policy} {host : Host} {request : CheckRequest} {attributes : Attributes} {payload : Bytes}
  {surface : Surface} {c : Call} {refusal : Refusal}

theorem treats_settled (sent : request.call attributes payload surface = .ok c) (seeks : p.Seeks c)
    (host : Host) (refusal : Refusal) :
    Treats p c refusal (finding (p.settled host c (some refusal))) := by
  cases surface with
  | body direction =>
    obtain rfl := Except.ok.inj sent
    have passes : bodyFinding .pass = .passed := rfl
    exact treats_of_failure? rfl false host.evaluate refusal passes fun _ => rfl
  | message direction =>
    obtain rfl := Except.ok.inj sent
    have passes : messageFinding (.forward { content := payload, attributes }) = .passed := rfl
    exact treats_of_failure? rfl false _ refusal passes fun _ => rfl
  | content direction =>
    obtain rfl := Except.ok.inj sent
    have passes : contentFinding (.forward (Buffer.collect [payload]).bytes) = .passed := rfl
    exact treats_of_failure? rfl true host.evaluate refusal passes fun _ => rfl
  | publish =>
    obtain ⟨set, -, rfl⟩ := map_eq_ok_iff.1 sent
    obtain ⟨strategy, handled⟩ := Option.isSome_iff_exists.1 seeks
    have blocks : ¬ Spares p (.publish (produceRequest request set) (request.recordMessage payload))
        refusal := by
      rintro (⟨-, phased⟩ | ⟨fetch⟩)
      · cases phased
      · cases fetch
    rw [Policy.settled, handled]
    exact .rejected blocks (by simp [refusedPartitions_reply])
  | subscribe =>
    obtain ⟨set, -, rfl⟩ := map_eq_ok_iff.1 sent
    obtain ⟨handler, handled⟩ := Option.isSome_iff_exists.1 seeks
    rw [Policy.settled, handled]
    cases handler with
    | invalidatePartition =>
      have blocks : ¬ Spares p
          (.subscribe (fetchResponse request set) (request.recordMessage payload)) refusal := by
        rintro (⟨-, phased⟩ | ⟨-, marks⟩)
        · cases phased
        · cases handled.symm.trans marks
      exact .rejected blocks (by simp [SubscribeHandler.settle, spoiledPartitions_invalidate])
    | addRecordHeader name => exact .spared (.marked rfl handled)

/-- The courses that a check can take: what is found, and what has been recorded by then. -/
inductive Course (p : Policy) (host : Host) (surface : Surface) (c : Call) :
    Except PolicyError Finding → Option String → Prop where
  | inactive {direction : Direction} (content : surface = .content direction)
      (scope : p.scope ≠ direction) (unsought : ¬ p.Seeks c) :
      Course p host surface c (.ok .skipped) none
  | unconfigured {reason : String} (broker : ∀ direction, surface ≠ .content direction)
      (unsought : ¬ p.Seeks c) : Course p host surface c (.error (.configuration reason)) none
  | valid (judged : Judged p host c none) : Course p host surface c (.ok .passed) none
  | refused {refusal : Refusal} {found : Except PolicyError Finding}
      (judged : Judged p host c (some refusal)) (treats : Treats p c refusal found) :
      Course p host surface c found (some refusal.detail)

variable {files : Files} {resources : Resources}

theorem course_of_call (sent : request.call attributes payload surface = .ok c)
    (loaded : loadResources files request = .ok resources) :
    Course p (.ofAttributes resources attributes) surface c
      (finding (p.call (Host.ofAttributes resources attributes) c {}).1)
      (p.call (Host.ofAttributes resources attributes) c {}).2.recorded? := by
  cases used : p.idle? c with
  | some answer =>
    -- The surface is not in use, so nothing is judged and nothing recorded.
    have unsought : ¬ p.Seeks c := fun seeks => by simp [Policy.idle?_of_seeks seeks] at used
    rw [Policy.call_of_idle used]
    rcases idle_cases_of_call sent used with
      ⟨direction, content, scope, found⟩ | ⟨rfl, -, found⟩ | ⟨rfl, -, found⟩
    · rw [found]
      exact .inactive content scope unsought
    · rw [found]
      exact .unconfigured (fun _ => nofun) unsought
    · rw [found]
      exact .unconfigured (fun _ => nofun) unsought
  | none =>
    -- The search always ends here, so there is a verdict, and no call is given up.
    obtain ⟨seeks, found, finds⟩ := finds_of_call sent loaded used
    have judged : Judged p (.ofAttributes resources attributes) c
        (verdict p.options found c.payload) := ⟨seeks, found, finds, rfl⟩
    rw [Policy.call_of_prompt (Host.prompt _) seeks finds, Policy.next]
    cases decided : verdict p.options found c.payload with
    | none =>
      rw [decided] at judged
      have passed : finding (p.settled (Host.ofAttributes resources attributes) c none) = .ok .passed := by
        rw [Policy.settled_none seeks, finding_eq_passed_iff]
        cases c <;> rfl
      rw [passed]
      exact .valid judged
    | some refusal =>
      rw [decided] at judged
      exact .refused judged (treats_settled sent seeks _ refusal)

theorem scope_of_judged {refusal? : Option Refusal} {direction : Direction}
    (sent : request.call attributes payload (.content direction) = .ok c)
    (judged : Judged p host c refusal?) : p.scope = direction := by
  obtain rfl := Except.ok.inj sent
  exact judged.seeks.1

namespace Course

variable {result : Except PolicyError Finding} {recorded? : Option String}

theorem skipped_iff (course : Course p host surface c result recorded?)
    (sent : request.call attributes payload surface = .ok c) :
    result = .ok .skipped ↔ ∃ direction, surface = .content direction ∧ p.scope ≠ direction := by
  cases course with
  | inactive content scope unsought => exact iff_of_true rfl ⟨_, content, scope⟩
  | unconfigured broker unsought =>
    exact iff_of_false nofun fun ⟨direction, content, _⟩ => broker direction content
  | valid judged =>
    refine iff_of_false nofun ?_
    rintro ⟨direction, rfl, scope⟩
    exact scope (scope_of_judged sent judged)
  | refused judged treats =>
    refine iff_of_false ?_ ?_
    · rintro rfl
      cases treats
    · rintro ⟨direction, rfl, scope⟩
      exact scope (scope_of_judged sent judged)

theorem valid_iff (course : Course p host surface c result recorded?) :
    result = .ok .passed ∧ recorded? = none ↔ Judged p host c none := by
  cases course with
  | inactive content scope unsought => exact iff_of_false (by simp) fun judged => unsought judged.seeks
  | unconfigured broker unsought => exact iff_of_false (by simp) fun judged => unsought judged.seeks
  | valid judged => exact iff_of_true ⟨rfl, rfl⟩ judged
  | refused judged treats => exact iff_of_false (by simp) fun valid => nomatch valid.unique judged

theorem recorded_iff (course : Course p host surface c result recorded?) {text : String} :
    recorded? = some text ↔ ∃ refusal, Judged p host c (some refusal) ∧ refusal.detail = text := by
  cases course with
  | inactive content scope unsought =>
    exact iff_of_false nofun fun ⟨refusal, judged, _⟩ => unsought judged.seeks
  | unconfigured broker unsought =>
    exact iff_of_false nofun fun ⟨refusal, judged, _⟩ => unsought judged.seeks
  | valid judged => exact iff_of_false nofun fun ⟨refusal, again, _⟩ => nomatch again.unique judged
  | @refused refusal _ judged treats =>
    rw [Option.some.injEq]
    refine ⟨fun same => ⟨refusal, judged, same⟩, fun ⟨other, again, same⟩ => ?_⟩
    obtain rfl := Option.some.inj (again.unique judged)
    exact same

theorem passed_iff (course : Course p host surface c result recorded?)
    (judged : Judged p host c (some refusal)) : result = .ok .passed ↔ Spares p c refusal := by
  cases course with
  | inactive content scope unsought => exact absurd judged.seeks unsought
  | unconfigured broker unsought => exact absurd judged.seeks unsought
  | valid valid => exact nomatch judged.unique valid
  | refused again treats =>
    obtain rfl := Option.some.inj (again.unique judged)
    cases treats with
    | spared spares => exact iff_of_true rfl spares
    | answered blocks => exact iff_of_false nofun blocks
    | rejected blocks nonempty => exact iff_of_false nofun blocks
    | unworded blocks => exact iff_of_false nofun blocks

theorem recorded_cases {found : Finding} (course : Course p host surface c (.ok found) recorded?) :
    recorded?.isSome = true ↔
      (found.failure?.isSome = true ∨ found.kind?.isSome = true) ∨
        found = .passed ∧ recorded?.isSome = true := by
  cases course with
  | inactive content scope unsought => simp [Finding.failure?, Finding.kind?]
  | valid judged => simp [Finding.failure?, Finding.kind?]
  | refused judged treats => cases treats <;> simp [Finding.failure?, Finding.kind?]

theorem partitions_iff {found : Finding} (course : Course p host surface c (.ok found) recorded?) :
    found.partitions ≠ [] ↔ found.kind?.isSome = true := by
  cases course with
  | inactive content scope unsought => simp [Finding.partitions, Finding.kind?]
  | valid judged => simp [Finding.partitions, Finding.kind?]
  | refused judged treats =>
    cases treats with
    | spared spares => simp [Finding.partitions, Finding.kind?]
    | answered blocks => simp [Finding.partitions, Finding.kind?]
    | rejected blocks nonempty => simp [Finding.partitions, Finding.kind?, nonempty]

/-- No other errors are left: a surface that is not configured, and a failure that cannot be worded. -/
theorem error_cases {error : PolicyError} (course : Course p host surface c (.error error) recorded?) :
    error.isConfiguration = true ∨ ∃ fault, error = .errorMessage fault := by
  cases course with
  | unconfigured broker unsought => exact .inl rfl
  | refused judged treats =>
    cases treats with
    | unworded blocks => exact .inr ⟨_, rfl⟩

end Course

end Command

end SchemaGate

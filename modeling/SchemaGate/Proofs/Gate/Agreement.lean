import SchemaGate.Proofs.Gate.Call
import SchemaGate.Proofs.Gate.Cause

/-!
# The surfaces agree

A payload meets one verdict, whichever surface it passes.  Main statement: what was found as the schema and
the bytes of the payload settle whether the payload is refused, the text that is recorded, and the kind
that is reported where a surface reports one.
-/

namespace SchemaGate

namespace Call

/-- The payload of the call is made of these bytes, in however many chunks. -/
def Carries (payload : Bytes) : Call → Prop
  | .body _ bytes => bytes = payload
  | .message _ m => m.content = payload
  | .content _ stream => stream.chunks.flatten = payload
  | .publish _ m => m.content = payload
  | .subscribe _ m => m.content = payload

/-- What the call comes back with when its payload goes through as it is. -/
def passed : Call → Answer
  | .body _ _ => .body (.ok .pass)
  | .message _ m => .message (.ok (.forward m))
  | .content _ stream => .content (.ok (.forward stream.chunks.flatten))
  | .publish _ m => .publish (.ok (.accept m))
  | .subscribe response m => .subscribe (.ok (.accept m)) response

theorem payload_of_carries {c : Call} {bytes : Bytes} (h : c.Carries bytes) : c.payload = bytes := by
  cases c with
  | body direction body => exact h
  | message direction m => exact h
  | content direction stream => exact (Buffer.bytes_collect stream.chunks).trans h
  | publish request m => exact h
  | subscribe response m => exact h

end Call

def Phase.kindOf? (phase : Phase) (key : String) : Option FailureKind :=
  [FailureKind.format, .payload].find? fun kind => phase.key kind = key

/-- The kind of refusal that an answer to the call reports: by the key of a failure, or by itself. -/
def Call.kind? (c : Call) : Answer → Option FailureKind
  | .body (.ok (.interrupt failure)) => c.phase?.bind fun phase => phase.kindOf? failure.key
  | .message (.ok (.interrupt failure)) => c.phase?.bind fun phase => phase.kindOf? failure.key
  | .content (.ok (.fail failure)) => c.phase?.bind fun phase => phase.kindOf? failure.key
  | .publish (.ok (.interrupt _ kind)) => some kind
  | .subscribe (.ok (.interrupt kind)) _ => some kind
  | _ => none

def Answer.error? : Answer → Option PolicyError
  | .body (.error error) => some error
  | .message (.error error) => some error
  | .content (.error error) => some error
  | .publish (.error error) => some error
  | .subscribe (.error error) _ => some error
  | _ => none

/-- What a call may come back with for a refused payload. -/
inductive Refuses (p : Policy) (c : Call) (refusal : Refusal) : Answer → Prop where
  | reported {answer : Answer} (kind : c.kind? answer = some refusal.kind) :
      Refuses p c refusal answer
  | unworded {answer : Answer} {fault : TemplateError}
      (fails : answer.error? = some (.errorMessage fault)) : Refuses p c refusal answer
  | straight {phase : Phase} (mode : p.straightRespond = true) (phased : c.phase? = some phase)
      (allowed : phase ≠ .request) (resolved : refusal.unresolved = false) :
      Refuses p c refusal c.passed
  | marked {response : Broker.FetchResponse} {message : Broker.Message} {name : String}
      (marks : p.subscribe? = some (.addRecordHeader name)) (fetch : c = .subscribe response message) :
      Refuses p c refusal
        (.subscribe (.ok (.accept (message.putHeader name (Utf8.encode refusal.detail)))) response)

theorem Phase.kindOf?_key (phase : Phase) (kind : FailureKind) :
    phase.kindOf? (phase.key kind) = some kind := by
  cases phase <;> cases kind <;> decide

theorem Call.kind?_passed (c : Call) : c.kind? c.passed = none := by
  cases c <;> rfl

theorem Call.kind?_of_error? {answer : Answer} {error : PolicyError} (h : answer.error? = some error)
    (c : Call) : c.kind? answer = none := by
  unfold Answer.error? at h
  split at h
  any_goals rfl
  cases h

variable {p : Policy} {env : Environment} {c : Call} {refusal : Refusal} {answer : Answer}

theorem kind_of_refuses (h : Refuses p c refusal answer) {kind : FailureKind}
    (reported : c.kind? answer = some kind) : refusal.kind = kind := by
  cases h with
  | reported own => exact Option.some.inj (own.symm.trans reported)
  | unworded fails => simp [Call.kind?_of_error? fails] at reported
  | straight mode phased allowed resolved => simp [Call.kind?_passed] at reported
  | marked marks fetch => cases reported

theorem exists_fault_of_failureMessage {expression? : Option String} {status : UInt16}
    {evaluate : Evaluator} {error : PolicyError}
    (h : failureMessage expression? status evaluate = .error error) :
    ∃ fault, error = .errorMessage fault := by
  unfold failureMessage at h
  split at h
  · cases h
  · split at h
    · cases h
    · cases h
    · next fault _ => exact ⟨fault, (Except.error.inj h).symm⟩

namespace Policy

/-- A refused payload goes through if the phase lets it, and otherwise fails, if the failure can be
worded. -/
theorem failure?_some_cases (p : Policy) (phase : Phase) (buffered : Bool) (evaluate : Evaluator)
    (refusal : Refusal) :
    (p.straightRespond = true ∧ phase ≠ .request ∧ refusal.unresolved = false ∧
      p.failure? phase buffered evaluate (some refusal) = .ok none) ∨
    (∃ failure, phase.kindOf? failure.key = some refusal.kind ∧
      p.failure? phase buffered evaluate (some refusal) = .ok (some failure)) ∨
    ∃ fault, p.failure? phase buffered evaluate (some refusal) = .error (.errorMessage fault) := by
  by_cases straight : p.straightRespond && phase.allowsStraightRespond && !refusal.unresolved
  · have parts := straight
    simp only [Phase.allowsStraightRespond, Bool.and_eq_true, decide_eq_true_eq,
      Bool.not_eq_true'] at parts
    exact .inl ⟨parts.1.1, parts.1.2, parts.2, if_pos straight⟩
  · refine .inr ?_
    rw [failure?, if_neg straight, buildFailure]
    cases h : failureMessage p.messageExpression? phase.status evaluate with
    | ok message => exact .inl ⟨_, phase.kindOf?_key refusal.kind, rfl⟩
    | error error =>
      obtain ⟨fault, rfl⟩ := exists_fault_of_failureMessage h
      exact .inr ⟨fault, rfl⟩

theorem settled_none (seeks : p.Seeks c) (env : Environment) : p.settled env c none = c.passed := by
  cases c with
  | body direction bytes => rfl
  | message direction message => rfl
  | content direction stream =>
    rw [Call.passed, ← Buffer.bytes_collect]
    rfl
  | publish request message =>
    obtain ⟨strategy, handled⟩ := Option.isSome_iff_exists.1 seeks
    rw [settled, handled]
    rfl
  | subscribe response message =>
    obtain ⟨handler, handled⟩ := Option.isSome_iff_exists.1 seeks
    rw [settled, handled]
    rfl

theorem refuses_of_failure? {phase : Phase} (phased : c.phase? = some phase) (buffered : Bool)
    (evaluate : Evaluator) (refusal : Refusal) (answer : Except PolicyError (Option Failure) → Answer)
    (passes : answer (.ok none) = c.passed)
    (interrupts : ∀ failure, c.kind? (answer (.ok (some failure))) = phase.kindOf? failure.key)
    (fails : ∀ error, (answer (.error error)).error? = some error) :
    Refuses p c refusal (answer (p.failure? phase buffered evaluate (some refusal))) := by
  rcases p.failure?_some_cases phase buffered evaluate refusal with
    ⟨mode, allowed, resolved, through⟩ | ⟨failure, key, failed⟩ | ⟨fault, unworded⟩
  · rw [through, passes]
    exact .straight mode phased allowed resolved
  · rw [failed]
    exact .reported ((interrupts failure).trans key)
  · rw [unworded]
    exact .unworded (fails _)

theorem refuses_settled (seeks : p.Seeks c) (env : Environment) (refusal : Refusal) :
    Refuses p c refusal (p.settled env c (some refusal)) := by
  cases c with
  | body direction bytes =>
    have phased : (Call.body direction bytes).phase? = some (.ofBody direction) := rfl
    exact refuses_of_failure? phased false _ refusal
      (fun result => .body (result.map fun failure? => failure?.elim .pass .interrupt))
      rfl (fun _ => rfl) fun _ => rfl
  | message direction message =>
    have phased : (Call.message direction message).phase? = some (.ofMessage direction) := rfl
    exact refuses_of_failure? phased false _ refusal
      (fun result => .message (result.map fun failure? => failure?.elim (.forward message) .interrupt))
      rfl (fun _ => rfl) fun _ => rfl
  | content direction stream =>
    have phased : (Call.content direction stream).phase? = some (.ofBody direction) := rfl
    rw [settled, Buffer.bytes_collect]
    exact refuses_of_failure? phased true _ refusal
      (fun result => .content (result.map fun failure? =>
        failure?.elim (.forward stream.chunks.flatten) .fail))
      rfl (fun _ => rfl) fun _ => rfl
  | publish request message =>
    obtain ⟨strategy, handled⟩ := Option.isSome_iff_exists.1 seeks
    rw [settled, handled]
    exact .reported rfl
  | subscribe response message =>
    obtain ⟨handler, handled⟩ := Option.isSome_iff_exists.1 seeks
    rw [settled, handled]
    cases handler with
    | invalidatePartition => exact .reported rfl
    | addRecordHeader name => exact .marked handled rfl

section Rules

variable [RuleSystem] {s : Session}

/-- What shows of a verdict in the answer to a call and in the session afterwards. -/
structure Shows (p : Policy) (c : Call) (refusal? : Option Refusal) (s : Session)
    (ends : Answer × Session) : Prop where
  valid : refusal? = none → ends.1 = c.passed ∧ ends.2.recorded? = s.recorded?
  refused : ∀ refusal, refusal? = some refusal →
    Refuses p c refusal ends.1 ∧ ends.2.recorded? = some refusal.detail
  reported : ∀ kind, c.kind? ends.1 = some kind → refusal?.map Refusal.kind = some kind

theorem shows_of_concludes {found : Except SchemaError Schema} (seeks : p.Seeks c)
    (h : p.Concludes env (c.engine env) c.phase? c.payload s found) :
    Shows p c (verdict p.options found c.payload) s (p.call env c s) := by
  rw [call_of_concludes seeks h]
  cases judged : verdict p.options found c.payload with
  | none =>
    refine ⟨fun _ => ⟨settled_none seeks env, ?_⟩, fun refusal refused => ?_,
      fun kind reported => ?_⟩
    · simp [next, judged]
    · cases refused
    · rw [settled_none seeks env, Call.kind?_passed] at reported
      cases reported
  | some refusal =>
    have refuses := refuses_settled seeks env refusal
    refine ⟨fun valid => ?_, fun other same => ?_, fun kind reported => ?_⟩
    · cases valid
    · obtain rfl := Option.some.inj same
      exact ⟨refuses, by simp [next, judged]⟩
    · rw [Option.map_some, kind_of_refuses refuses reported]

theorem finds_of_fixed {schema : Schema} (fixed : p.resolver = .fixed schema)
    (live : s.cancelled = false) (env : Environment) (engine : Engine) :
    p.Finds env engine s (.ok schema) :=
  ⟨live, by rw [fixed]; rfl⟩

/-- With a fixed schema, every payload meets one verdict at all surfaces, for all hosts and in all
sessions, while the event is not cancelled; the same holds of all searches that find the same schema, or
fail alike.  Which kind of refusal it is follows from the first cause that applies.  The content of a record
without a value is empty. -/
theorem surfaces_judge_alike (p : Policy) :
    (∀ schema payload, p.resolver = .fixed schema →
      ∃ refusal?, Decides p.options payload (.ok schema) (refusal?.map Refusal.kind) ∧
        ∀ env c s, p.Seeks c → c.Carries payload → s.cancelled = false →
          (p.waits env (c.engine env) c.phase? refusal?).cutOff = false →
          Shows p c refusal? s (p.call env c s)) ∧
    (∀ found payload,
      ∃ refusal?, Decides p.options payload found (refusal?.map Refusal.kind) ∧
        ∀ env c s, p.Seeks c → c.Carries payload →
          p.Concludes env (c.engine env) c.phase? payload s found →
          Shows p c refusal? s (p.call env c s)) ∧
    (∀ found payload kind? other?, Decides p.options payload found kind? →
      Decides p.options payload found other? → kind? = other?) ∧
    (∀ (env : Environment) (c : Call) phase? refusal?, env.Prompt →
      (p.waits env (c.engine env) phase? refusal?).cutOff = false) ∧
    ∀ topic index record,
      (Broker.Message.ofRecord topic index record).content = record.value.getD [] := by
  refine ⟨fun schema payload fixed => ?_, fun found payload => ?_,
    fun found payload kind? other? h h' => ?_, fun env c phase? refusal? prompt => ?_,
    fun topic index record => rfl⟩
  · refine ⟨verdict p.options (.ok schema) payload, decides_iff.2 rfl,
      fun env c s seeks carries live uncut => ?_⟩
    rw [← Call.payload_of_carries carries] at uncut ⊢
    exact shows_of_concludes seeks ⟨finds_of_fixed fixed live env _, uncut⟩
  · refine ⟨verdict p.options found payload, decides_iff.2 rfl, fun env c s seeks carries h => ?_⟩
    rw [← Call.payload_of_carries carries] at h ⊢
    exact shows_of_concludes seeks h
  · exact (decides_iff.1 h).symm.trans (decides_iff.1 h')
  · exact cutOff_waits (Call.prompt_engine prompt c) p env phase? refusal?

end Rules

/-- The schema does not compile, which would be reported as a violation here, but the payload is not JSON
either, and that comes first: for a body in two empty chunks, and for a record without a value. -/
theorem surfaces_judge_alike_two_faults :
    let schema : Schema :=
      { id := "static", subject := "static", version := "1", content := "12"
        parsed? := some (.number (.integer 12)), parsed_eq := by intro document h; cases h; rfl }
    let p : Policy :=
      { resolver := .fixed schema, options := { unchecked := true }, messageExpression? := none
        straightRespond := false, scope := .response, publish? := none
        subscribe? := some (.addRecordHeader "X-Invalid") }
    let host : Environment := Host.ofAttributes .empty .empty
    let body : Call := .content .response ⟨[[], []], true⟩
    let fetch : Call := .subscribe { topics := [] } (.ofRecord "a" 0 ⟨3, none, none, []⟩)
    let text := "payload is not valid JSON: EOF while parsing a value at line 1 column 0"
    p.resolver = .fixed schema ∧ p.Seeks body ∧ body.Carries [] ∧ p.Seeks fetch ∧ fetch.Carries [] ∧
      Decides p.options [] (.ok schema) (some .format) ∧
      (p.call host body {}).2.recorded? = some text ∧
      (p.call host fetch {}).2.recorded? = some text ∧
      body.kind? (p.call host body {}).1 = some .format ∧
      fetch.kind? (p.call host fetch {}).1 = none := by
  intro schema p host body fetch text
  have seeks : p.Seeks body := ⟨rfl, rfl⟩
  have carries : body.Carries [] := rfl
  have described : Json.parse (Utf8.encode "12") = .ok (.number (.integer 12)) := rfl
  have decided : Decides p.options [] (.ok schema) (some .format) := .invalidPayload described rfl
  obtain ⟨refusal?, kind, shows⟩ := (surfaces_judge_alike p).1 schema [] rfl
  have refused := (surfaces_judge_alike p).2.2.1 _ _ _ _ kind decided
  obtain ⟨refusal, rfl, -⟩ := Option.map_eq_some_iff.1 refused
  have recorded := ((shows host body {} seeks carries rfl rfl).refused refusal rfl).2
  have same := ((shows host fetch {} rfl rfl rfl rfl).refused refusal rfl).2
  have written : (p.call host body {}).2.recorded? = some text := rfl
  exact ⟨rfl, seeks, carries, rfl, rfl, decided, written, same.trans (recorded.symm.trans written),
    rfl, rfl⟩

end Policy

end SchemaGate

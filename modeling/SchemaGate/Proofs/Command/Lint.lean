import SchemaGate.Command.Run
import SchemaGate.Proofs.Command.Errors
import SchemaGate.Proofs.Gate.Subscribe

/-!
# Linting and checking

Linting a file goes through the stages with which every check with that file begins.  Main statement: the
exit code of linting tells whether checks get past these stages, and what they end with if they do not; its
flags tell what becomes of the broker's surfaces.
-/

namespace SchemaGate.Command

/-- The error is about the configuration file, or about building the policy. -/
def CommandError.early : CommandError → Bool
  | .configUnread _ _ => true
  | .configInvalid _ => true
  | .policyInvalid _ => true
  | _ => false

/-- Whatever error the computation ends with, it is not an early one. -/
def Late {α : Type} (x : Except CommandError α) : Prop :=
  ∀ error, x = .error error → error.early = false

variable {files : Files} {request : CheckRequest} {p : Policy} {payload : Bytes}
  {attributes : Attributes} {resources : Resources} {path : String}

theorem early_iff {error : CommandError} :
    error.early = true ↔ error.stage = .configuration ∨ error.stage = .policy := by
  cases error <;> simp [CommandError.early, CommandError.stage]

theorem late_check (builds : Builds files request.config p) : Late (check files request) := by
  intro error ends
  rcases stage_of_check ends with ⟨-, unbuilt⟩ | later
  · exact absurd builds (unbuilt p)
  · refine Bool.eq_false_iff.2 fun early => ?_
    rcases early_iff.1 early with same | same <;> simp [same] at later

theorem early_of_loadConfiguration {error : CommandError}
    (h : loadConfiguration files path = .error error) : error.early = true :=
  early_iff.2 (.inl (stage_of_loadConfiguration h))

namespace CommandError

theorem number_ofFault_ne_zero (fault : FileFault) : (ofFault fault).number ≠ 0 := by
  cases fault <;> decide

theorem number_ofPolicyError_ne_zero (error : PolicyError) : (ofPolicyError error).number ≠ 0 := by
  unfold ofPolicyError
  split
  · decide
  · split <;> decide

theorem number_ofSchemaError_ne_zero (error : SchemaError) : (ofSchemaError error).number ≠ 0 := by
  unfold ofSchemaError
  split <;> decide

theorem number_exit_ne_zero (error : CommandError) : error.exit.number ≠ 0 := by
  cases error with
  | configUnread path fault => exact number_ofFault_ne_zero fault
  | payloadUnread path fault => exact number_ofFault_ne_zero fault
  | configInvalid error => exact number_ofPolicyError_ne_zero error
  | policyInvalid error => exact number_ofPolicyError_ne_zero error
  | phaseFailed surface error => exact number_ofPolicyError_ne_zero error
  | registryUnread error => exact number_ofSchemaError_ne_zero error
  | payloadMissing | payloadInvalid | attributeInvalid | unframed | recordsUnread | recordMissing =>
    exact nofun

end CommandError

theorem lint_of_unbuilt {c : Configuration} {error : PolicyError}
    (loaded : loadConfiguration files path = .ok c)
    (unbuilt : Policy.ofConfiguration c = .error error) :
    lint files path = .error (.configInvalid error) := by
  -- Linting looks at the source first; where there is none, building fails for that reason as well.
  cases effective : c.effectiveSource with
  | error fault =>
    have same : Policy.ofConfiguration c = .error fault := by
      rw [Policy.ofConfiguration, effective]
      rfl
    obtain rfl := Except.error.inj (unbuilt.symm.trans same)
    simp [lint, loaded, effective, bind, Except.bind, Except.mapError]
  | ok source => simp [lint, loaded, effective, unbuilt, bind, Except.bind, Except.mapError]

/-- Linting and checking build the policy alike, and fail alike before that. -/
theorem lint_cases (files : Files) (path : String) :
    (∃ c p source, loadConfiguration files path = .ok c ∧ Policy.ofConfiguration c = .ok p ∧
      lint files path = .ok ⟨source, c.scope, c.onPublish?.isSome, c.onSubscribe?.isSome⟩) ∨
    ∃ error, lint files path = .error error ∧ (∀ p, ¬ Builds files path p) ∧
      ∀ request : CheckRequest, request.config = path →
        ∃ other, check files request = .error other ∧ other.early = true ∧ other.exit = error.exit := by
  cases loaded : loadConfiguration files path with
  | error error =>
    refine .inr ⟨error, ?_, ?_, ?_⟩
    · rw [lint, loaded]
      rfl
    · rintro p ⟨c, again, -⟩
      cases loaded.symm.trans again
    · rintro request rfl
      refine ⟨error, ?_, early_of_loadConfiguration loaded, rfl⟩
      rw [check, loaded]
      rfl
  | ok c =>
    cases built : Policy.ofConfiguration c with
    | error error =>
      refine .inr ⟨.configInvalid error, ?_, ?_, ?_⟩
      · exact lint_of_unbuilt loaded built
      · rintro p ⟨other, again, builds⟩
        obtain rfl := Except.ok.inj (loaded.symm.trans again)
        cases built.symm.trans builds
      · rintro request rfl
        refine ⟨.policyInvalid error, ?_, rfl, rfl⟩
        simp [check, loaded, built, bind, Except.bind, Except.mapError]
    | ok p =>
      obtain ⟨source, effective, -⟩ := (Policy.builtFrom_of_ofConfiguration built).resolver
      refine .inl ⟨c, p, source, rfl, built, ?_⟩
      simp [lint, loaded, effective, built, bind, Except.bind, Except.mapError]

def Surface.option? : Surface → Option String
  | .publish => some "onPublish"
  | .subscribe => some "onSubscribe"
  | _ => none

/-- The policy knows what to do with refused records at a surface. -/
def handles (p : Policy) : Surface → Bool
  | .publish => p.publish?.isSome
  | .subscribe => p.subscribe?.isSome
  | _ => true

/-- The flag of a report that is about a surface. -/
def LintReport.flag (report : LintReport) : Surface → Bool
  | .publish => report.onPublish
  | .subscribe => report.onSubscribe
  | _ => true

theorem flag_eq_handles {c : Configuration} {source : SchemaSource}
    (built : Policy.ofConfiguration c = .ok p) (surface : Surface) :
    LintReport.flag ⟨source, c.scope, c.onPublish?.isSome, c.onSubscribe?.isSome⟩ surface =
      handles p surface := by
  have parts := Policy.builtFrom_of_ofConfiguration built
  cases surface with
  | body direction => rfl
  | message direction => rfl
  | content direction => rfl
  | publish => rw [handles, parts.publish?, Option.isSome_map, LintReport.flag]
  | subscribe =>
    rw [handles, LintReport.flag]
    cases configured : c.onSubscribe? with
    | none =>
      have made := parts.subscribe?
      rw [configured] at made
      rw [← Except.ok.inj made]
      rfl
    | some handling =>
      obtain ⟨handler, -, handled⟩ := Policy.exists_handler_of_builtFrom parts configured
      rw [handled]
      rfl

variable {surface : Surface} {option : String} {c : Call}

theorem handles_of_seeks (broker : surface.option? = some option)
    (sent : request.call attributes payload surface = .ok c) (seeks : p.Seeks c) (host : Host)
    (refusal? : Option Refusal) :
    handles p surface = true ∧ ∃ found, finding (p.settled host c refusal?) = .ok found := by
  cases surface with
  | body direction => cases broker
  | message direction => cases broker
  | content direction => cases broker
  | publish =>
    obtain ⟨set, -, rfl⟩ := map_eq_ok_iff.1 sent
    obtain ⟨strategy, handled⟩ := Option.isSome_iff_exists.1 seeks
    rw [Policy.settled, handled]
    exact ⟨seeks, _, rfl⟩
  | subscribe =>
    obtain ⟨set, -, rfl⟩ := map_eq_ok_iff.1 sent
    obtain ⟨handler, handled⟩ := Option.isSome_iff_exists.1 seeks
    rw [Policy.settled, handled]
    exact ⟨seeks, _, rfl⟩

theorem finding_at_broker (broker : surface.option? = some option)
    (sent : request.call attributes payload surface = .ok c)
    (loaded : loadResources files request = .ok resources) :
    (handles p surface = true ∧
      ∃ found, finding (p.call (Host.ofAttributes resources attributes) c {}).1 = .ok found) ∨
    (handles p surface = false ∧ finding (p.call (Host.ofAttributes resources attributes) c {}).1 =
      .error (Policy.unconfigured option)) := by
  cases used : p.idle? c with
  | some answer =>
    refine .inr ?_
    rw [Policy.call_of_idle used]
    rcases idle_cases_of_call sent used with
      ⟨direction, rfl, -, -⟩ | ⟨rfl, unhandled, found⟩ | ⟨rfl, unhandled, found⟩
    · cases broker
    · obtain rfl := Option.some.inj broker
      exact ⟨by rw [handles, unhandled]; rfl, found⟩
    · obtain rfl := Option.some.inj broker
      exact ⟨by rw [handles, unhandled]; rfl, found⟩
  | none =>
    obtain ⟨seeks, found, finds⟩ := finds_of_call sent loaded used
    rw [Policy.call_of_prompt (Host.prompt _) seeks finds]
    exact .inl (handles_of_seeks broker sent seeks _ _)

theorem check_at_broker (broker : request.surface.option? = some option)
    (accepted : Accepted files request p payload attributes resources)
    (framed : ∃ set, singleRecord request payload = .ok set) :
    (handles p request.surface = true ∧ ∃ report, check files request = .ok report) ∨
      (handles p request.surface = false ∧
        check files request = .error (.phaseFailed request.surface (Policy.unconfigured option))) := by
  obtain ⟨c, sent⟩ := exists_call request attributes fun _ => framed
  rw [check_of_accepted accepted, sent]
  simp only [bind, Except.bind]
  rcases finding_at_broker broker sent accepted.resources with ⟨handled, found, ok⟩ | ⟨unhandled, failed⟩
  · rw [ok]
    exact .inl ⟨handled, _, rfl⟩
  · rw [failed]
    exact .inr ⟨unhandled, rfl⟩

theorem check_of_unframed (broker : request.surface.option? = some option)
    (accepted : Accepted files request p payload attributes resources)
    (unframed : ∀ set, singleRecord request payload ≠ .ok set) :
    ∃ fault, check files request = .error (.unframed fault) := by
  rw [check_of_accepted accepted]
  cases single : singleRecord request payload with
  | ok set => exact absurd single (unframed set)
  | error error =>
    obtain ⟨fault, rfl⟩ := exists_fault_of_singleRecord single
    refine ⟨fault, ?_⟩
    cases surface : request.surface with
    | body direction => simp [surface, Surface.option?] at broker
    | message direction => simp [surface, Surface.option?] at broker
    | content direction => simp [surface, Surface.option?] at broker
    | publish => simp [CheckRequest.call, single, Except.map, bind, Except.bind]
    | subscribe => simp [CheckRequest.call, single, Except.map, bind, Except.bind]

theorem exists_accepted (builds : Builds files path p) (surface : Surface) :
    ∃ request : CheckRequest, request.config = path ∧ request.surface = surface ∧
      Accepted files request p [] .empty .empty ∧ ∃ set, singleRecord request [] = .ok set := by
  let request : CheckRequest := { config := path, surface, payload? := some (.data "") }
  have framed := (exists_singleRecord_iff request []).2 (Nat.zero_le Broker.maxLength)
  exact ⟨request, rfl, rfl, ⟨builds, rfl, ⟨[], rfl, rfl⟩, rfl⟩, framed⟩

/-- What a flag of linting says about the checks with the same file at a surface of the broker. -/
structure Foretells (machine : Machine) (files : Files) (path : String) (surface : Surface)
    (option : String) (flag : Bool) : Prop where
  each : ∀ arguments shared request p payload attributes resources,
    Invocation.ofArguments arguments = .ok ⟨shared, .check request⟩ → request.config = path →
    request.surface = surface → Accepted files request p payload attributes resources →
    (∃ set, singleRecord request payload = .ok set) →
      (flag = false ↔ (run machine files arguments).exit.number = 78) ∧
      (flag = false ↔ run machine files arguments =
        .ofError (.phaseFailed surface (Policy.unconfigured option)))
  unframed : ∀ arguments shared request p payload attributes resources,
    Invocation.ofArguments arguments = .ok ⟨shared, .check request⟩ → request.config = path →
    request.surface = surface → Accepted files request p payload attributes resources →
    (∀ set, singleRecord request payload ≠ .ok set) →
      (run machine files arguments).exit.number = 64
  all : flag = false ↔ ∀ request p payload attributes resources, request.config = path →
    request.surface = surface → Accepted files request p payload attributes resources →
    (∃ set, singleRecord request payload = .ok set) →
      check files request = .error (.phaseFailed surface (Policy.unconfigured option))

theorem Builds.unique {q : Policy} (h : Builds files path p) (h' : Builds files path q) : p = q := by
  obtain ⟨c, loaded, built⟩ := h
  obtain ⟨other, again, rebuilt⟩ := h'
  obtain rfl := Except.ok.inj (loaded.symm.trans again)
  exact Except.ok.inj (built.symm.trans rebuilt)

theorem foretells_handles (machine : Machine) (builds : Builds files path p)
    (broker : surface.option? = some option) :
    Foretells machine files path surface option (handles p surface) where
  each := by
    rintro arguments shared request q payload attributes resources asked rfl rfl accepted framed
    obtain rfl := builds.unique accepted.builds
    rw [run, asked]
    dsimp only [runTask]
    rcases check_at_broker broker accepted framed with ⟨handled, report, ok⟩ | ⟨unhandled, failed⟩
    · rw [handled, ok]
      refine ⟨iff_of_false nofun ?_, iff_of_false nofun ?_⟩
      · dsimp only [Outcome.ofCheck]
        split <;> decide
      · intro same
        cases congrArg Outcome.error? same
    · rw [unhandled, failed]
      exact ⟨iff_of_true rfl rfl, iff_of_true rfl rfl⟩
  unframed := by
    rintro arguments shared request q payload attributes resources asked rfl rfl accepted unframed
    obtain ⟨fault, failed⟩ := check_of_unframed broker accepted unframed
    rw [run, asked]
    dsimp only [runTask]
    rw [failed]
    rfl
  all := by
    constructor
    · rintro unhandled request q payload attributes resources rfl rfl accepted framed
      obtain rfl := builds.unique accepted.builds
      rcases check_at_broker broker accepted framed with ⟨handled, -⟩ | ⟨-, failed⟩
      · rw [unhandled] at handled
        cases handled
      · exact failed
    · intro every
      obtain ⟨request, config, rfl, accepted, framed⟩ := exists_accepted builds surface
      rcases check_at_broker broker accepted framed with ⟨-, report, ok⟩ | ⟨unhandled, -⟩
      · cases ok.symm.trans (every request p _ _ _ config rfl accepted framed)
      · exact unhandled

/-- Linting succeeds exactly if checks with the same file get past reading the configuration and building
the policy.  If it does not, every check ends with the same exit code, whatever else it is given; if it
does, the flags say which of the broker's surfaces are not configured. -/
theorem lint_predicts_check {machine : Machine} {arguments : List String} {shared : Shared}
    (asked : Invocation.ofArguments arguments = .ok ⟨shared, .lint path⟩) :
    ((run machine files arguments).exit.number = 0 ↔ ∃ p, Builds files path p) ∧
    (∀ request : CheckRequest, request.config = path →
      ((run machine files arguments).exit.number = 0 ↔ Late (check files request))) ∧
    (∀ others shared request, Invocation.ofArguments others = .ok ⟨shared, .check request⟩ →
      request.config = path → (run machine files arguments).exit.number ≠ 0 →
        (run machine files others).exit = (run machine files arguments).exit) ∧
    ((run machine files arguments).exit.number = 0 → ∃ report, lint files path = .ok report ∧
      (run machine files arguments).lines = report.lines shared.format ∧
      Foretells machine files path .publish "onPublish" report.onPublish ∧
      Foretells machine files path .subscribe "onSubscribe" report.onSubscribe) := by
  rw [run, asked]
  dsimp only [runTask]
  rcases lint_cases files path with ⟨c, p, source, loaded, built, ok⟩ | ⟨error, failed, unbuilt, same⟩
  · have builds : Builds files path p := ⟨c, loaded, built⟩
    rw [ok]
    refine ⟨iff_of_true rfl ⟨p, builds⟩, ?_, fun _ _ _ _ _ failed => absurd rfl failed, fun _ => ?_⟩
    · rintro request rfl
      exact iff_of_true rfl (late_check builds)
    · have flags := @flag_eq_handles _ _ source built
      refine ⟨_, rfl, rfl, ?_, ?_⟩
      · have publish := foretells_handles machine builds (rfl : Surface.publish.option? = _)
        rw [← flags .publish] at publish
        exact publish
      · have subscribe := foretells_handles machine builds (rfl : Surface.subscribe.option? = _)
        rw [← flags .subscribe] at subscribe
        exact subscribe
  · rw [failed]
    have nonzero : (Outcome.ofLint shared.format (.error error)).exit.number ≠ 0 :=
      error.number_exit_ne_zero
    refine ⟨iff_of_false nonzero fun ⟨p, builds⟩ => unbuilt p builds, ?_, ?_,
      fun zero => absurd zero nonzero⟩
    · intro request config
      obtain ⟨other, ends, early, -⟩ := same request config
      refine iff_of_false nonzero fun late => ?_
      rw [late other ends] at early
      cases early
    · intro others shared request asked config _
      obtain ⟨other, ends, -, exit⟩ := same request config
      rw [run, asked]
      dsimp only [runTask]
      rw [ends]
      exact exit

/-- A configuration that marks records and does not say what to do with a request: linting it succeeds, and
says why a request cannot be checked.  A file that is not there is the same misuse for both. -/
theorem lint_predicts_check_marking_only :
    let text := "\x7b\"schema\":\"false\",\"nativeErrorHandling\":\x7b\"onSubscribe\":" ++
      "\x7b\"strategy\":\"ADD_RECORD_HEADER\",\"headerName\":\"X\"\x7d\x7d\x7d"
    let files : Files :=
      { read := fun path => if path = "policy" then .ok (Utf8.encode text) else .error .notFound
        list := fun _ => .error .notFound }
    let machine : Machine := ⟨"linux", "x86_64", "x86_64-unknown-linux-gnu", "release"⟩
    let linting (path : String) := ["lint", "--config", path]
    let checking (path : String) := ["check", "--config", path, "--phase", "publish", "--data", "1"]
    Invocation.ofArguments (linting "policy") = .ok ⟨{}, .lint "policy"⟩ ∧
      Invocation.ofArguments (linting "absent") = .ok ⟨{}, .lint "absent"⟩ ∧
      (run machine files (linting "policy")).exit.number = 0 ∧
      lint files "policy" = .ok ⟨.inline "false", .request, false, true⟩ ∧
      (run machine files (checking "policy")).exit.number = 78 ∧
      (run machine files (linting "absent")).exit.number = 64 ∧
      (run machine files (checking "absent")).exit.number = 64 := by
  intro text files machine linting checking
  have present : Invocation.ofArguments (linting "policy") = .ok ⟨{}, .lint "policy"⟩ := by
    decide +kernel
  have absent : Invocation.ofArguments (linting "absent") = .ok ⟨{}, .lint "absent"⟩ := by
    decide +kernel
  have linted : lint files "policy" = .ok ⟨.inline "false", .request, false, true⟩ := by decide +kernel
  have missing : (run machine files (linting "absent")).exit.number = 64 := by decide +kernel
  have zero : (run machine files (linting "policy")).exit.number = 0 := by decide +kernel
  let request (path : String) : CheckRequest :=
    { config := path, surface := .publish, payload? := some (.data "1") }
  have asked : Invocation.ofArguments (checking "policy") = .ok ⟨{}, .check (request "policy")⟩ := by
    decide +kernel
  have other : Invocation.ofArguments (checking "absent") = .ok ⟨{}, .check (request "absent")⟩ := by
    decide +kernel
  obtain ⟨builds, -, -, flags⟩ := @lint_predicts_check files _ machine _ _ present
  obtain ⟨-, -, alike, -⟩ := @lint_predicts_check files _ machine _ _ absent
  obtain ⟨p, built⟩ := builds.1 zero
  obtain ⟨report, same, -, publish, -⟩ := flags zero
  obtain rfl := Except.ok.inj (linted.symm.trans same)
  have accepted : Accepted files (request "policy") p (Utf8.encode "1") .empty .empty :=
    ⟨built, rfl, ⟨[], rfl, rfl⟩, rfl⟩
  have framed := (exists_singleRecord_iff (request "policy") (Utf8.encode "1")).2 (by decide)
  have unconfigured := (publish.each _ _ _ p _ _ _ asked rfl rfl accepted framed).1.1 rfl
  refine ⟨present, absent, zero, linted, unconfigured, missing, ?_⟩
  rw [alike _ _ _ other rfl (by rw [missing]; decide), missing]

end SchemaGate.Command

import SchemaGate.Command.Run
import SchemaGate.Proofs.Command.Course

/-!
# What a check reports

Main statement: the exit code and the report of a check are settled by what its call comes back with and by
the verdict on its payload.
-/

namespace SchemaGate.Command

variable {files : Files} {request : CheckRequest} {p : Policy} {host : Host} {payload : Bytes}
  {attributes : Attributes} {resources : Resources} {surface : Surface} {c : Call}

namespace CheckReport

variable {r : CheckReport}

theorem verdict_eq_fail_iff :
    r.verdict = .fail ↔ r.finding.failure?.isSome = true ∨ r.finding.kind?.isSome = true := by
  obtain ⟨surface, found, detail?⟩ := r
  cases found <;> cases detail? <;> simp [verdict, Finding.failure?, Finding.kind?]

theorem verdict_eq_skipped_iff : r.verdict = .skipped ↔ r.finding = .skipped := by
  obtain ⟨surface, found, detail?⟩ := r
  cases found <;> cases detail? <;> simp [verdict]

theorem verdict_eq_flagged_iff :
    r.verdict = .flagged ↔ r.finding = .passed ∧ r.detail?.isSome = true := by
  obtain ⟨surface, found, detail?⟩ := r
  cases found <;> cases detail? <;> simp [verdict]

theorem verdict_eq_pass_iff : r.verdict = .pass ↔ r.finding = .passed ∧ r.detail? = none := by
  obtain ⟨surface, found, detail?⟩ := r
  cases found <;> cases detail? <;> simp [verdict]

end CheckReport

/-- What is reported of a call besides its verdict, each part by what the call comes back with, what it
leaves recorded, and the verdict on its payload. -/
structure Reports (p : Policy) (host : Host) (c : Call) (report : CheckReport) : Prop where
  detailed : report.detail?.isSome = true ↔ report.verdict = .fail ∨ report.verdict = .flagged
  recorded : report.detail? = (p.call host c {}).2.recorded?
  diagnostic : ∀ text, report.detail? = some text ↔
    ∃ refusal, Judged p host c (some refusal) ∧ refusal.detail = text
  failure : report.finding.failure? = (p.call host c {}).1.failure?
  kind : report.finding.kind? = (p.call host c {}).1.rejection?
  partitions : report.finding.partitions ≠ [] ↔ (p.call host c {}).1.rejection?.isSome = true

theorem reports_of_course {found : Finding}
    (course : Course p host surface c (finding (p.call host c {}).1) (p.call host c {}).2.recorded?)
    (answered : finding (p.call host c {}).1 = .ok found) :
    Reports p host c ⟨surface, found, (p.call host c {}).2.recorded?⟩ := by
  obtain ⟨failure, kind⟩ := parts_of_finding answered
  rw [answered] at course
  refine ⟨?_, rfl, fun text => course.recorded_iff, failure, kind, ?_⟩
  · rw [CheckReport.verdict_eq_fail_iff, CheckReport.verdict_eq_flagged_iff]
    exact course.recorded_cases
  · rw [← kind]
    exact course.partitions_iff

/-- A check comes to its end with this exit code and a report of this verdict. -/
structure Ends (files : Files) (request : CheckRequest) (format : OutputFormat) (number : Nat)
    (verdict : Verdict) (o : Outcome) : Prop where
  exit : o.exit.number = number
  reported : ∃ report, check files request = .ok report ∧ report.verdict = verdict ∧
    o.lines = report.lines format ∧ o.error? = none

theorem exit_of_error {error : PolicyError}
    (h : error.isConfiguration = true ∨ ∃ fault, error = .errorMessage fault) :
    CommandError.ofPolicyError error = .configuration := by
  rcases h with configuration | ⟨fault, rfl⟩
  · exact if_pos configuration
  · rfl

theorem ends_cases {result : Except PolicyError Finding} {recorded? : Option String}
    (course : Course p host request.surface c result recorded?)
    (checked : check files request = reportOf request.surface result recorded?)
    (format : OutputFormat) :
    (∃ found, result = .ok found ∧ check files request = .ok ⟨request.surface, found, recorded?⟩ ∧
      ∀ verdict, (⟨request.surface, found, recorded?⟩ : CheckReport).verdict = verdict →
        Ends files request format (if verdict = .fail then 60 else 0) verdict
          (.ofCheck format (check files request))) ∨
    ∃ error, result = .error error ∧ check files request = .error (.phaseFailed request.surface error) ∧
      (Outcome.ofCheck format (check files request)).exit.number = 78 := by
  cases result with
  | error error =>
    refine .inr ⟨error, rfl, checked, ?_⟩
    rw [checked]
    exact congrArg ExitCode.number (exit_of_error course.error_cases)
  | ok found =>
    refine .inl ⟨found, rfl, checked, fun verdict reported => ⟨?_, _, checked, reported, ?_, ?_⟩⟩
    · rw [checked, ← reported]
      exact apply_ite ExitCode.number _ _ _
    · rw [checked]
      rfl
    · rw [checked]
      rfl

theorem ends_iff {result : Except PolicyError Finding} {recorded? : Option String}
    (course : Course p host request.surface c result recorded?)
    (checked : check files request = reportOf request.surface result recorded?)
    (format : OutputFormat) (verdict : Verdict) :
    Ends files request format (if verdict = .fail then 60 else 0) verdict
        (.ofCheck format (check files request)) ↔
      ∃ found, result = .ok found ∧
        (⟨request.surface, found, recorded?⟩ : CheckReport).verdict = verdict := by
  rcases ends_cases course checked format with
    ⟨found, rfl, report, ends⟩ | ⟨error, rfl, unreported, -⟩
  · constructor
    · intro h
      obtain ⟨other, again, reported, -⟩ := h.reported
      obtain rfl := Except.ok.inj (report.symm.trans again)
      exact ⟨found, rfl, reported⟩
    · rintro ⟨other, same, reported⟩
      obtain rfl := Except.ok.inj same
      exact ends verdict reported
  · refine iff_of_false ?_ ?_
    · intro h
      obtain ⟨other, again, -⟩ := h.reported
      cases unreported.symm.trans again
    · rintro ⟨other, same, -⟩
      cases same

/-- The exit codes of a check, and what each of them says. -/
theorem exit_cases {result : Except PolicyError Finding} {recorded? : Option String}
    (course : Course p host request.surface c result recorded?)
    (checked : check files request = reportOf request.surface result recorded?)
    (format : OutputFormat) {o : Outcome} (ended : o = .ofCheck format (check files request)) :
    (o.exit.number = 60 ∧ Ends files request format 60 .fail o ∧ ∃ found, result = .ok found) ∨
    (o.exit.number = 0 ∧ ∃ found, result = .ok found) ∨
    (o.exit.number = 78 ∧ ∃ error, result = .error error) := by
  subst ended
  rcases ends_cases course checked format with ⟨found, ok, -, ends⟩ | ⟨error, failed, -, exit⟩
  · by_cases fails : (⟨request.surface, found, recorded?⟩ : CheckReport).verdict = .fail
    · have ended := ends .fail fails
      exact .inl ⟨ended.exit, ended, found, ok⟩
    · have exit := (ends _ rfl).exit
      rw [if_neg fails] at exit
      exact .inr (.inl ⟨exit, found, ok⟩)
  · exact .inr (.inr ⟨exit, error, failed⟩)

/-- What is said of a check by the way in which it ends. -/
structure Tells (files : Files) (request : CheckRequest) (format : OutputFormat) (p : Policy)
    (host : Host) (c : Call) (o : Outcome) : Prop where
  failed : Ends files request format 60 .fail o ↔ (p.call host c {}).1.Blocks
  refused : o.exit.number = 60 ↔ (p.call host c {}).1.Blocks
  skipped : Ends files request format 0 .skipped o ↔
    ∃ direction, request.surface = .content direction ∧ p.scope ≠ direction
  flagged : Ends files request format 0 .flagged o ↔
    (p.call host c {}).1.delivers = true ∧ ∃ refusal, Judged p host c (some refusal)
  spared : ∀ refusal, Judged p host c (some refusal) →
    ((p.call host c {}).1.delivers = true ↔ Spares p c refusal)
  passed : Ends files request format 0 .pass o ↔ Judged p host c none
  misconfigured : o.exit.number = 78 ↔ ∃ error, (p.call host c {}).1.error? = some error ∧
    (error.isConfiguration = true ∨ ∃ fault, error = .errorMessage fault)
  codes : o.exit.number = 0 ∨ o.exit.number = 60 ∨ o.exit.number = 78
  reports : ∀ report, check files request = .ok report → Reports p host c report

theorem tells_of_course (sent : request.call attributes payload request.surface = .ok c)
    (course : Course p host request.surface c (finding (p.call host c {}).1)
      (p.call host c {}).2.recorded?)
    (checked : check files request =
      reportOf request.surface (finding (p.call host c {}).1) (p.call host c {}).2.recorded?)
    (format : OutputFormat) :
    Tells files request format p host c (.ofCheck format (check files request)) := by
  have ends := ends_iff course checked format
  have exits := exit_cases course checked format rfl
  have finds (recorded : Prop) : (∃ found, finding (p.call host c {}).1 = .ok found ∧
      found = .passed ∧ recorded) ↔ finding (p.call host c {}).1 = .ok .passed ∧ recorded := by
    refine ⟨?_, fun ⟨passed, h⟩ => ⟨_, passed, rfl, h⟩⟩
    rintro ⟨_, passed, rfl, h⟩
    exact ⟨passed, h⟩
  have blocked : Ends files request format 60 .fail (.ofCheck format (check files request)) ↔
      (p.call host c {}).1.Blocks := by
    refine (ends .fail).trans ?_
    simp only [CheckReport.verdict_eq_fail_iff, blocks_iff]
  -- What is said of verdicts follows from `ends`, and what is said of codes alone from `exits`.
  refine ⟨blocked, ?_, ?_, ?_, fun refusal judged => ?_, ?_, ?_, ?_, fun report reported => ?_⟩
  · rw [← blocked]
    refine ⟨fun exit => ?_, Ends.exit⟩
    rcases exits with ⟨-, ended, -⟩ | ⟨zero, -⟩ | ⟨other, -⟩
    · exact ended
    · cases zero.symm.trans exit
    · cases other.symm.trans exit
  · refine (ends .skipped).trans ?_
    simp only [CheckReport.verdict_eq_skipped_iff, exists_eq_right]
    exact course.skipped_iff sent
  · refine (ends .flagged).trans ?_
    simp only [CheckReport.verdict_eq_flagged_iff, finds, finding_eq_passed_iff,
      Option.isSome_iff_exists, course.recorded_iff]
    simp
  · rw [← finding_eq_passed_iff]
    exact course.passed_iff judged
  · refine (ends .pass).trans ?_
    simp only [CheckReport.verdict_eq_pass_iff, finds]
    exact course.valid_iff
  · simp only [← finding_eq_error_iff]
    rcases exits with ⟨sixty, -, found, ok⟩ | ⟨zero, found, ok⟩ | ⟨exit, error, failed⟩
    · exact iff_of_false (by rw [sixty]; decide) (by simp [ok])
    · exact iff_of_false (by rw [zero]; decide) (by simp [ok])
    · rw [failed] at course
      exact iff_of_true exit ⟨error, failed, course.error_cases⟩
  · rcases exits with ⟨sixty, -⟩ | ⟨zero, -⟩ | ⟨exit, -⟩
    · exact .inr (.inl sixty)
    · exact .inl zero
    · exact .inr (.inr exit)
  · rcases ends_cases course checked format with ⟨found, answered, same, -⟩ | ⟨error, -, failed, -⟩
    · obtain rfl := Except.ok.inj (same.symm.trans reported)
      exact reports_of_course course answered
    · cases failed.symm.trans reported

/-- Every check whose configuration, payload, attributes and registry are accepted, and whose payload can be
framed where it has to be, makes one call with that payload.  Its exit code and its report tell what the
call came to: whether the payload is kept back, skipped, let through although it is refused, or valid, or
the policy cannot go on with the configuration that it has. -/
theorem run_check_tells {machine : Machine} {arguments : List String} {shared : Shared}
    (asked : Invocation.ofArguments arguments = .ok ⟨shared, .check request⟩)
    (accepted : Accepted files request p payload attributes resources)
    (framed : request.surface = .publish ∨ request.surface = .subscribe →
      ∃ set, singleRecord request payload = .ok set) :
    ∃ c, request.call attributes payload request.surface = .ok c ∧ c.Carries payload ∧
      Tells files request shared.format p (.ofAttributes resources attributes) c
        (run machine files arguments) := by
  obtain ⟨c, sent⟩ := exists_call request attributes framed
  have checked := check_of_accepted accepted
  rw [sent] at checked
  have course : Course p _ request.surface c _ _ := course_of_call sent accepted.resources
  refine ⟨c, sent, carries_of_call sent, ?_⟩
  rw [run, asked]
  exact tells_of_course sent course checked shared.format

/-- A refused record is marked and delivered: the check succeeds, and says that the record is flagged. -/
theorem run_check_tells_marked_record :
    let text := "\x7b\"schema\":\"false\",\"nativeErrorHandling\":\x7b\"onSubscribe\":" ++
      "\x7b\"strategy\":\"ADD_RECORD_HEADER\",\"headerName\":\"X\"\x7d\x7d\x7d"
    let files : Files :=
      { read := fun path => if path = "policy" then .ok (Utf8.encode text) else .error .notFound
        list := fun _ => .error .notFound }
    let arguments := ["check", "--config", "policy", "--phase", "subscribe", "--data", "1", "--offset=-7"]
    let request : CheckRequest :=
      { config := "policy", surface := .subscribe, payload? := some (.data "1"), offset := -7 }
    let schema : Schema :=
      { id := "static", subject := "static", version := "1", content := "false"
        parsed? := some (.bool false), parsed_eq := by intro document h; cases h; rfl }
    let p : Policy :=
      { resolver := .fixed schema, options := {}, messageExpression? := none, straightRespond := false
        scope := .request, publish? := none, subscribe? := some (.addRecordHeader "X") }
    let o := run ⟨"linux", "x86_64", "x86_64-unknown-linux-gnu", "release"⟩ files arguments
    Invocation.ofArguments arguments = .ok ⟨{}, .check request⟩ ∧
      Accepted files request p (Utf8.encode "1") .empty .empty ∧
      (∃ set, singleRecord request (Utf8.encode "1") = .ok set) ∧
      Ends files request .json 0 .flagged o ∧ o.exit.number ≠ 60 ∧ o.exit.number ≠ 78 := by
  intro text files arguments request schema p o
  have asked : Invocation.ofArguments arguments = .ok ⟨{}, .check request⟩ := by decide +kernel
  let config : Configuration :=
    { schema? := some "false", handling? := some { onSubscribe? := some ⟨.addRecordHeader, some "X"⟩ } }
  have loaded : loadConfiguration files "policy" = .ok config := by decide +kernel
  have accepted : Accepted files request p (Utf8.encode "1") .empty .empty :=
    ⟨⟨config, loaded, by decide +kernel⟩, rfl, ⟨[], rfl, rfl⟩, rfl⟩
  have framed : ∃ set, singleRecord request (Utf8.encode "1") = .ok set :=
    (exists_singleRecord_iff request _).2 (by decide)
  obtain ⟨c, sent, carries, tells⟩ := @run_check_tells _ _ _ _ _ _
    ⟨"linux", "x86_64", "x86_64-unknown-linux-gnu", "release"⟩ _ _ asked accepted fun _ => framed
  have subscribe : request.surface = .subscribe := rfl
  rw [subscribe, CheckRequest.call] at sent
  obtain ⟨set, -, rfl⟩ := map_eq_ok_iff.1 sent
  have refused : verdict p.options (.ok schema) (Utf8.encode "1") =
      some (.payload "payload violates schema 'static': False schema does not allow 1") := by
    decide +kernel
  have judged : Judged p (.ofAttributes .empty .empty)
      (.subscribe (fetchResponse request set) (request.recordMessage (Utf8.encode "1"))) _ :=
    ⟨rfl, .ok schema, ⟨rfl, rfl⟩, refused⟩
  have delivers := (tells.spared _ judged).2 (.marked rfl rfl)
  have flagged := tells.flagged.2 ⟨delivers, _, judged⟩
  refine ⟨asked, accepted, framed, flagged, ?_, ?_⟩
  · rw [flagged.exit]
    decide
  · rw [flagged.exit]
    decide

end SchemaGate.Command

import SchemaGate.Proofs.Validation.Cache

/-!
# What options change

The options of an engine settle how many findings are reported, and what becomes of a schema that does not
compile.  Main statement: whether a payload is valid, and what is found first, is the same under all of
them, whatever the engine has kept.
-/

namespace SchemaGate

namespace ValidationOptions

def Verbose (options : ValidationOptions) : Prop :=
  options.unchecked = true ∨ options.deepCheck = true

/-- What the options make of the findings on a payload: all of them, or the first and the number of the
others, if there are any. -/
structure Reports (options : ValidationOptions) (findings : List String) (report : Report) : Prop where
  success : report.success = true ↔ findings = []
  first : report.diagnostics.head? = findings.head?
  all : options.Verbose → report.diagnostics = findings
  few : findings.length ≤ 1 → report.diagnostics = findings
  counted : ¬ options.Verbose → 1 < findings.length → report.diagnostics =
    findings.take 1 ++ [toString (findings.length - 1) ++ " more violation(s) not reported"]

variable {options : ValidationOptions}

theorem select_several (options : ValidationOptions) (first second : String) (others : List String) :
    options.select (first :: second :: others) =
      if options.unchecked || options.deepCheck then first :: second :: others
      else [first, toString (second :: others).length ++ " more violation(s) not reported"] := by
  rw [select]
  simp

theorem head?_select (options : ValidationOptions) (findings : List String) :
    (options.select findings).head? = findings.head? := by
  match findings with
  | [] => rfl
  | [first] => rfl
  | first :: second :: others =>
    rw [select_several]
    split <;> rfl

theorem select_of_verbose (h : options.Verbose) (findings : List String) :
    options.select findings = findings := by
  match findings with
  | [] => rfl
  | [first] => rfl
  | first :: second :: others =>
    have verbose : (options.unchecked || options.deepCheck) = true := by simpa [Verbose] using h
    rw [select_several, if_pos verbose]

theorem select_of_few {findings : List String} (h : findings.length ≤ 1) :
    options.select findings = findings := by
  match findings, h with
  | [], _ => rfl
  | [first], _ => rfl

theorem select_of_counted (h : ¬ options.Verbose) {findings : List String}
    (several : 1 < findings.length) : options.select findings =
      findings.take 1 ++ [toString (findings.length - 1) ++ " more violation(s) not reported"] := by
  match findings, several with
  | first :: second :: others, _ =>
    have terse : ¬ (options.unchecked || options.deepCheck) = true := by simpa [Verbose] using h
    rw [select_several, if_neg terse]
    rfl

theorem reports_select (options : ValidationOptions) (schemaId : String) (findings : List String) :
    options.Reports findings ⟨schemaId, options.select findings⟩ where
  success := by rw [Report.success, List.isEmpty_iff, select_eq_nil_iff]
  first := head?_select options findings
  all verbose := select_of_verbose verbose findings
  few := select_of_few
  counted terse several := select_of_counted terse several

end ValidationOptions

namespace ValidationEngine

open RuleSystem

/-- For a schema that is JSON and compiles, the violations of a payload settle its report up to their
number, whichever engine is asked and whether it has the schema compiled already.  One that does not
compile is itself what is reported by engines that are unchecked, and an error for the others. -/
theorem options_only_shorten_reports [RuleSystem] {schema : Schema} {document value : Json} {payload : Bytes}
    (described : schema.document = .ok document) (read : Json.parse payload = .ok value) :
    (∀ program, compile document = .ok program → ∀ engine : ValidationEngine, ∃ report,
      (engine.validate schema payload).1 = .ok report ∧ report.schemaId = schema.id ∧
        engine.options.Reports (findings program value) report) ∧
    ∀ error, compile document = .error error → ∀ engine : ValidationEngine,
      (engine.options.unchecked = true → ∃ report,
        (engine.validate schema payload).1 = .ok report ∧ report.schemaId = schema.id ∧
          report.success = false ∧ report.diagnostics = ["invalid schema: " ++ error]) ∧
      (engine.options.unchecked = false →
        (engine.validate schema payload).1 = .error (.compileFailed error)) := by
  refine ⟨fun program compiled engine => ?_, fun error uncompiled engine => ?_⟩
  · rw [validate_of_json described read, judge_of_ok described compiled]
    exact ⟨_, rfl, rfl, ValidationOptions.reports_select _ _ _⟩
  · rw [validate_of_json described read, judge_of_error described uncompiled, reject]
    constructor
    · intro unchecked
      rw [if_pos unchecked]
      exact ⟨_, rfl, rfl, rfl, rfl⟩
    · intro strict
      rw [if_neg (by simp [strict])]

/-- An engine that has the schema compiled counts what another lists, and a schema that does not compile is
reported or is an error. -/
theorem options_only_shorten_reports_three_findings :
    let document : Json := .object [("required", .array [.string "a", .string "b", .string "c"])]
    let schema : Schema :=
      { id := "static", subject := "static", version := "1"
        content := "\x7b\"required\":[\"a\",\"b\",\"c\"]\x7d"
        parsed? := some document, parsed_eq := by intro found h; cases h; cbv }
    let broken : Schema := .ofSubject "t" "5"
    let payload := Utf8.encode "\x7b\x7d"
    let keeping := ((ofOptions ⟨false, false⟩).validate schema payload).2
    let line (name : String) : String := "\"" ++ name ++ "\" is a required property"
    let invalid : String := "5 is not of types \"boolean\", \"object\""
    keeping.cache?.map CompiledSchema.content = some schema.content ∧
      (keeping.validate schema payload).1 =
        .ok ⟨"static", [line "a", "2 more violation(s) not reported"]⟩ ∧
      ((ofOptions ⟨false, true⟩).validate schema payload).1 =
        .ok ⟨"static", [line "a", line "b", line "c"]⟩ ∧
      ((ofOptions ⟨true, false⟩).validate broken payload).1 =
        .ok ⟨"t", ["invalid schema: " ++ invalid]⟩ ∧
      ((ofOptions ⟨false, true⟩).validate broken payload).1 = .error (.compileFailed invalid) := by
  intro document schema broken payload keeping line invalid
  have described : schema.document = .ok document := rfl
  have read : Json.parse payload = .ok (.object []) := by cbv
  have found : (compile document).toOption.map (fun program => findings program (.object [])) =
      some [line "a", line "b", line "c"] := by decide +kernel
  obtain ⟨program, compiled, missing⟩ : ∃ program, compile document = .ok program ∧
      findings program (.object []) = [line "a", line "b", line "c"] := by
    cases compiled : compile document with
    | error error => simp [compiled, Except.toOption] at found
    | ok program => exact ⟨program, rfl, by simpa [compiled, Except.toOption] using found⟩
  have fault : (match compile (.number (.integer 5)) with
      | .ok _ => none
      | .error error => some error) = some invalid := by decide +kernel
  have uncompiled : compile (.number (.integer 5)) = .error invalid := by
    cases uncompiled : compile (.number (.integer 5)) with
    | error error => simpa [uncompiled] using fault
    | ok program => simp [uncompiled] at fault
  have filled : keeping.cache?.map CompiledSchema.content = some schema.content :=
    content_validate_of_fills rfl ⟨rfl, ⟨_, read⟩, document, program, described, compiled⟩
  have terse : ¬ keeping.options.Verbose := by
    rw [show keeping.options = ⟨false, false⟩ from options_validate _ _ _]
    simp [ValidationOptions.Verbose]
  have whole {id : String} {lines : List String} (report : Report) (named : report.schemaId = id)
      (listed : report.diagnostics = lines) : report = ⟨id, lines⟩ := by
    rw [← named, ← listed]
  have reports := (options_only_shorten_reports described read).1 program compiled
  have known : broken.document = .ok (.number (.integer 5)) := rfl
  have others := (options_only_shorten_reports known read).2 invalid uncompiled
  rw [missing] at reports
  obtain ⟨counting, counted, first, counts⟩ := reports keeping
  obtain ⟨listing, listed, second, lists⟩ := reports (ofOptions ⟨false, true⟩)
  obtain ⟨telling, told, third, -, tells⟩ := (others (ofOptions ⟨true, false⟩)).1 rfl
  refine ⟨filled, counted.trans ?_, listed.trans ?_, told.trans ?_,
    (others (ofOptions ⟨false, true⟩)).2 rfl⟩
  · have number : toString (3 - 1) ++ " more violation(s) not reported" =
        "2 more violation(s) not reported" := by decide
    rw [whole counting first (counts.counted terse (by simp))]
    exact congrArg (fun last => Except.ok (Report.mk "static" [line "a", last])) number
  · rw [whole listing second (lists.all (.inr rfl))]
  · rw [whole telling third tells]
    rfl

end ValidationEngine

end SchemaGate

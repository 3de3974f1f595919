import SchemaGate.Proofs.Gate.Verdict

/-!
# Causes of a refusal

A payload can be wrong, and its schema can be wrong, both at once.  Main statement: `decides_iff`, by which
of the causes the kind of a refusal is settled.
-/

namespace SchemaGate

open RuleSystem

variable [RuleSystem]

/-- The kind of refusal that a payload meets, or none, by the first cause that applies: the schema was not
found, it is not JSON, the payload is not, the schema does not compile, the payload breaks it. -/
inductive Decides (options : ValidationOptions) (payload : Bytes) :
    Except SchemaError Schema → Option FailureKind → Prop where
  | notFound (error : SchemaError) : Decides options payload (.error error) (some .format)
  | invalidSchema {schema : Schema} {fault : JsonError}
      (unread : Json.parse (Utf8.encode schema.content) = .error fault) :
      Decides options payload (.ok schema) (some .format)
  | invalidPayload {schema : Schema} {document : Json} {fault : JsonError}
      (described : Json.parse (Utf8.encode schema.content) = .ok document)
      (unread : Json.parse payload = .error fault) :
      Decides options payload (.ok schema) (some .format)
  | strict {schema : Schema} {document value : Json} {fault : String}
      (described : Json.parse (Utf8.encode schema.content) = .ok document)
      (read : Json.parse payload = .ok value) (uncompiled : compile document = .error fault)
      (strict : options.unchecked = false) : Decides options payload (.ok schema) (some .format)
  | unchecked {schema : Schema} {document value : Json} {fault : String}
      (described : Json.parse (Utf8.encode schema.content) = .ok document)
      (read : Json.parse payload = .ok value) (uncompiled : compile document = .error fault)
      (unchecked : options.unchecked = true) : Decides options payload (.ok schema) (some .payload)
  | violates {schema : Schema} {document value : Json} {program : Program}
      (described : Json.parse (Utf8.encode schema.content) = .ok document)
      (read : Json.parse payload = .ok value) (compiled : compile document = .ok program)
      (found : findings program value ≠ []) :
      Decides options payload (.ok schema) (some .payload)
  | valid {schema : Schema} {document value : Json} {program : Program}
      (described : Json.parse (Utf8.encode schema.content) = .ok document)
      (read : Json.parse payload = .ok value) (compiled : compile document = .ok program)
      (found : findings program value = []) : Decides options payload (.ok schema) none

section Verdict

variable {options : ValidationOptions} {schema : Schema} {payload : Bytes} {document value : Json}

theorem verdict_of_invalid_schema {fault : JsonError}
    (unread : Json.parse (Utf8.encode schema.content) = .error fault) :
    verdict options (.ok schema) payload = some (.format (SchemaError.invalidSchema fault).message) := by
  simp only [verdict,
    ValidationEngine.validate_of_invalid_schema (Schema.document_of_parse_error unread)]

theorem verdict_of_invalid_payload {fault : JsonError}
    (described : Json.parse (Utf8.encode schema.content) = .ok document)
    (unread : Json.parse payload = .error fault) :
    verdict options (.ok schema) payload =
      some (.format (SchemaError.invalidPayload fault).message) := by
  simp only [verdict,
    ValidationEngine.validate_of_invalid_payload (Schema.document_of_parse_ok described) unread]

theorem verdict_of_uncompiled {fault : String}
    (described : Json.parse (Utf8.encode schema.content) = .ok document)
    (read : Json.parse payload = .ok value) (uncompiled : compile document = .error fault) :
    verdict options (.ok schema) payload =
      if options.unchecked then
        some (.payload (Report.mk schema.id ["invalid schema: " ++ fault]).describe)
      else some (.format (SchemaError.compileFailed fault).message) := by
  have known := Schema.document_of_parse_ok described
  rw [verdict, ValidationEngine.validate_of_json known read,
    ValidationEngine.judge_of_error known uncompiled, ValidationEngine.reject]
  cases h : options.unchecked <;> simp [ValidationEngine.ofOptions, h, Report.success]

theorem verdict_of_compiled {program : Program}
    (described : Json.parse (Utf8.encode schema.content) = .ok document)
    (read : Json.parse payload = .ok value) (compiled : compile document = .ok program) :
    verdict options (.ok schema) payload =
      if findings program value = [] then none
      else some (.payload (Report.mk schema.id
        (options.select (findings program value))).describe) := by
  have known := Schema.document_of_parse_ok described
  rw [verdict, ValidationEngine.validate_of_json known read,
    ValidationEngine.judge_of_ok known compiled]
  simp only [ValidationEngine.report, ValidationEngine.ofOptions, Report.success,
    List.isEmpty_iff, ValidationOptions.select_eq_nil_iff]

end Verdict

variable {options : ValidationOptions} {found : Except SchemaError Schema} {payload : Bytes}
  {kind? : Option FailureKind}

theorem kind_of_decides (h : Decides options payload found kind?) :
    (verdict options found payload).map Refusal.kind = kind? := by
  cases h with
  | notFound error => rfl
  | invalidSchema unread => rw [verdict_of_invalid_schema unread]; rfl
  | invalidPayload described unread => rw [verdict_of_invalid_payload described unread]; rfl
  | strict described read uncompiled strict =>
    rw [verdict_of_uncompiled described read uncompiled, strict]
    rfl
  | unchecked described read uncompiled unchecked =>
    rw [verdict_of_uncompiled described read uncompiled, unchecked]
    rfl
  | violates described read compiled violations =>
    rw [verdict_of_compiled described read compiled, if_neg violations]
    rfl
  | valid described read compiled violations =>
    rw [verdict_of_compiled described read compiled, if_pos violations]
    rfl

theorem exists_decides (options : ValidationOptions) (found : Except SchemaError Schema)
    (payload : Bytes) : ∃ kind?, Decides options payload found kind? := by
  cases found with
  | error error => exact ⟨_, .notFound error⟩
  | ok schema =>
    cases described : Json.parse (Utf8.encode schema.content) with
    | error fault => exact ⟨_, .invalidSchema described⟩
    | ok document =>
      cases read : Json.parse payload with
      | error fault => exact ⟨_, .invalidPayload described read⟩
      | ok value =>
        cases compiled : compile document with
        | error fault =>
          cases unchecked : options.unchecked with
          | false => exact ⟨_, .strict described read compiled unchecked⟩
          | true => exact ⟨_, .unchecked described read compiled unchecked⟩
        | ok program =>
          by_cases violations : findings program value = []
          · exact ⟨_, .valid described read compiled violations⟩
          · exact ⟨_, .violates described read compiled violations⟩

theorem decides_iff : Decides options payload found kind? ↔
    (verdict options found payload).map Refusal.kind = kind? := by
  refine ⟨kind_of_decides, fun h => ?_⟩
  obtain ⟨other?, decided⟩ := exists_decides options found payload
  rwa [← h, kind_of_decides decided]

end SchemaGate

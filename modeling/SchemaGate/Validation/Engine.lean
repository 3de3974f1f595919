import SchemaGate.Schema.Basic
import SchemaGate.Validation.Report
import SchemaGate.Validation.Rules

/-!
# The validation engine

Holds payloads against schemas.  The engine keeps what it has compiled for the first static schema
that it could compile, and uses it again for schemas of the same text.
-/

namespace SchemaGate

open RuleSystem

variable [RuleSystem]

/-- The text of a static schema, and what it was compiled to. -/
structure CompiledSchema where
  content : String
  program : Program
  compiles : ∃ document, Schema.readContent content = .ok document ∧ compile document = .ok program

structure ValidationEngine where
  options : ValidationOptions := {}
  cache? : Option CompiledSchema := none

namespace ValidationEngine

def ofOptions (options : ValidationOptions) : ValidationEngine :=
  { options }

def cached? (engine : ValidationEngine) (schema : Schema) : Option Program :=
  match engine.cache? with
  | some compiled =>
    if schema.isStatic ∧ compiled.content = schema.content then some compiled.program else none
  | none => none

/-- Keeps a compiled form, if the schema is static and nothing is kept yet. -/
def keep (engine : ValidationEngine) (schema : Schema) (program : Program)
    (compiles : ∃ document, schema.document = .ok document ∧ compile document = .ok program) :
    ValidationEngine :=
  if schema.isStatic ∧ engine.cache?.isNone then
    { engine with
      cache? := some ⟨schema.content, program, schema.document_eq_readContent ▸ compiles⟩ }
  else engine

def report (engine : ValidationEngine) (schema : Schema) (program : Program) (payload : Json) :
    Report :=
  ⟨schema.id, engine.options.select (findings program payload)⟩

/-- What is said of a schema that does not compile. -/
def reject (engine : ValidationEngine) (schema : Schema) (error : String) : Except SchemaError Report :=
  if engine.options.unchecked then .ok ⟨schema.id, ["invalid schema: " ++ error]⟩
  else .error (.compileFailed error)

/-- Judges a payload that has been read. -/
def judge (engine : ValidationEngine) (schema : Schema) (document payload : Json)
    (described : schema.document = .ok document) : Except SchemaError Report × ValidationEngine :=
  match engine.cached? schema with
  | some program => (.ok (engine.report schema program payload), engine)
  | none =>
    match compiled : compile document with
    | .error error => (engine.reject schema error, engine)
    | .ok program =>
      (.ok (engine.report schema program payload),
        engine.keep schema program ⟨document, described, compiled⟩)

/-- The report on a payload, and the engine afterwards.  A fault in the schema's text comes before one
in the payload.  Compiling and finding are functions here that always come to an end, so there is no breakdown
of theirs to be caught and reported as aborted. -/
def validate (engine : ValidationEngine) (schema : Schema) (payload : Bytes) :
    Except SchemaError Report × ValidationEngine :=
  match described : schema.document with
  | .error error => (.error error, engine)
  | .ok document =>
    match Json.parse payload with
    | .error error => (.error (.invalidPayload error), engine)
    | .ok value => engine.judge schema document value described

end ValidationEngine

end SchemaGate

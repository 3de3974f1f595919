import SchemaGate.Text.NameMap
import SchemaGate.Text.Utf8
import SchemaGate.Json.Read
import SchemaGate.Schema.Error

/-!
# Schemas

A schema is its text, together with the identity that a registry knows it by.  A schema that is given
in the configuration is static: its text is read when it is made, so it is known to be JSON.
-/

namespace SchemaGate

structure SchemaReference where
  name : String
  subject : String
  version : String
deriving DecidableEq, Repr

structure Schema where
  id : String
  subject : String
  version : String
  content : String
  references : List SchemaReference := []
  dependencies : NameMap String := .empty
  /-- The value that the text describes, if the text was read when the schema was made. -/
  parsed? : Option Json := none
  parsed_eq : ∀ document, parsed? = some document →
    Json.parse (Utf8.encode content) = .ok document := by simp
deriving Repr

namespace Schema

def isStatic (schema : Schema) : Bool :=
  schema.parsed?.isSome

theorem ext_of_isStatic {a b : Schema} (id : a.id = b.id) (subject : a.subject = b.subject)
    (version : a.version = b.version) (content : a.content = b.content)
    (references : a.references = b.references) (dependencies : a.dependencies = b.dependencies)
    (static : a.isStatic = b.isStatic) : a = b := by
  obtain ⟨_, _, _, text, _, _, parsed, ha⟩ := a
  obtain ⟨_, _, _, _, _, _, other, hb⟩ := b
  subst id subject version content references dependencies
  cases parsed with
  | none =>
    cases other with
    | none => rfl
    | some _ => simp [isStatic] at static
  | some document =>
    cases other with
    | none => simp [isStatic] at static
    | some found =>
      have same : (Except.ok document : Except JsonError Json) = .ok found :=
        (ha document rfl).symm.trans (hb found rfl)
      cases same
      rfl

instance : DecidableEq Schema := fun a b =>
  decidable_of_iff
    (a.id = b.id ∧ a.subject = b.subject ∧ a.version = b.version ∧ a.content = b.content ∧
      a.references = b.references ∧ a.dependencies = b.dependencies ∧ a.isStatic = b.isStatic)
    ⟨fun ⟨h1, h2, h3, h4, h5, h6, h7⟩ => ext_of_isStatic h1 h2 h3 h4 h5 h6 h7,
      fun h => by subst h; simp⟩

def readContent (content : String) : Except SchemaError Json :=
  match Json.parse (Utf8.encode content) with
  | .ok document => .ok document
  | .error error => .error (.invalidSchema error)

def document (schema : Schema) : Except SchemaError Json :=
  match schema.parsed? with
  | some document => .ok document
  | none => readContent schema.content

theorem document_eq_readContent (schema : Schema) :
    schema.document = readContent schema.content := by
  unfold document readContent
  split
  · next document h => rw [schema.parsed_eq document h]
  · rfl

theorem document_of_parse_ok {schema : Schema} {document : Json}
    (h : Json.parse (Utf8.encode schema.content) = .ok document) : schema.document = .ok document := by
  rw [document_eq_readContent, readContent, h]

theorem document_of_parse_error {schema : Schema} {error : JsonError}
    (h : Json.parse (Utf8.encode schema.content) = .error error) :
    schema.document = .error (.invalidSchema error) := by
  rw [document_eq_readContent, readContent, h]

def static? (content : String) : Except SchemaError Schema :=
  match h : Json.parse (Utf8.encode content) with
  | .ok document =>
    .ok {
      id := "static", subject := "static", version := "1", content
      parsed? := some document, parsed_eq := by simpa using h }
  | .error error => .error (.invalidSchema error)

def ofSubject (subject content : String) : Schema :=
  { id := subject, subject, version := "1", content }

end Schema

end SchemaGate

/-!
# Validation reports

What is said about a payload that was held against a schema.  A report without diagnostics is a
success.
-/

namespace SchemaGate

/-- What becomes of a schema that does not compile, and how many violations are reported. -/
structure ValidationOptions where
  unchecked : Bool := false
  deepCheck : Bool := false
deriving DecidableEq, Repr

/-- The findings to report: all of them, or the first and a count of the others. -/
def ValidationOptions.select (options : ValidationOptions) : List String → List String
  | [] => []
  | [first] => [first]
  | first :: others =>
    if options.unchecked || options.deepCheck then first :: others
    else [first, toString others.length ++ " more violation(s) not reported"]

theorem ValidationOptions.select_eq_nil_iff {options : ValidationOptions} {findings : List String} :
    options.select findings = [] ↔ findings = [] := by
  match findings with
  | [] => simp [select]
  | [first] => simp [select]
  | first :: second :: others =>
    rw [select]
    · split <;> simp
    · simp

structure Report where
  schemaId : String
  diagnostics : List String
deriving DecidableEq, Repr

namespace Report

def success (report : Report) : Bool :=
  report.diagnostics.isEmpty

def describe (report : Report) : String :=
  if report.success then "payload matches schema '" ++ report.schemaId ++ "'"
  else "payload violates schema '" ++ report.schemaId ++ "': " ++
    String.intercalate "; " report.diagnostics

end Report

end SchemaGate

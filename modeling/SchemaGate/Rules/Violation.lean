import SchemaGate.Rules.Basic

/-!
# Violations

What a value does wrong, and how it is told.
-/

namespace SchemaGate.Rules

inductive Violation where
  | refused (value : Json)
  | kind (value : Json) (expected : List Kind)
  | constant (expected : Json)
  | enumeration (value : Json) (expected : List Json)
  | bound (value : Number) (side : Side) (inclusive : Bool) (limit : Number)
  | multipleOf (value : Number) (divisor : Float)
  | count (value : Json) (measure : Measure) (side : Side) (limit : Nat)
  | required (name : String)
  | pattern (text shown : String)
  | format (text name : String)
  /-- A value that stands where a pattern is malformed. -/
  | malformedPattern (value : Json)
  | repeated (value : Json)
  | additionalProperties (names : List String)
  | additionalItems (items : List Json)
  | unevaluatedProperties (names : List String)
  | unevaluatedItems (items : List Json)
  | contains (value : Json)
  | anyOf (value : Json)
  | oneOfNone (value : Json)
  | oneOfMany (value : Json)
  | not (source value : Json)
deriving Repr

namespace Violation

def quotedKind (k : Kind) : String :=
  "\"" ++ k.name ++ "\""

/-- Up to three alternatives in full, of more the first two and the number of the others. -/
def alternatives (values : List Json) : String :=
  match values with
  | [] => ""
  | [a] => a.print
  | [a, b] => a.print ++ " or " ++ b.print
  | [a, b, c] => a.print ++ ", " ++ b.print ++ " or " ++ c.print
  | a :: b :: rest =>
    a.print ++ ", " ++ b.print ++ " or " ++ toString rest.length ++ " other candidates"

def Measure.name (measure : Measure) (limit : Nat) : String :=
  match measure with
  | .characters => if limit = 1 then "character" else "characters"
  | .items => if limit = 1 then "item" else "items"
  | .properties => if limit = 1 then "property" else "properties"

def countVerb (measure : Measure) (side : Side) : String :=
  match measure, side with
  | .characters, .least => " is shorter than "
  | .characters, .most => " is longer than "
  | _, .least => " has less than "
  | _, .most => " has more than "

def were (n : Nat) : String :=
  if n = 1 then " was unexpected)" else " were unexpected)"

def inQuotes (text : String) : String :=
  "'" ++ text ++ "'"

/-- The things that are too many, each as it stands in the list. -/
def surplus (what : String) (list : List String) : String :=
  what ++ " are not allowed (" ++ String.intercalate ", " list ++ were list.length

def boundVerb (side : Side) (inclusive : Bool) : String :=
  match side, inclusive with
  | .least, true => " is less than the minimum of "
  | .most, true => " is greater than the maximum of "
  | .least, false => " is less than or equal to the minimum of "
  | .most, false => " is greater than or equal to the maximum of "

def message : Violation → String
  | .refused v => "False schema does not allow " ++ v.print
  | .kind v [k] => v.print ++ " is not of type " ++ quotedKind k
  | .kind v ks =>
    v.print ++ " is not of types " ++ String.intercalate ", " (ks.map quotedKind)
  | .constant e => e.print ++ " was expected"
  | .enumeration v es => v.print ++ " is not one of " ++ alternatives es
  | .bound v side inclusive limit => v.text ++ boundVerb side inclusive ++ limit.text
  | .multipleOf v d => v.text ++ " is not a multiple of " ++ Number.plainText d
  | .count v measure side limit =>
    v.print ++ countVerb measure side ++ toString limit ++ " " ++ Measure.name measure limit
  | .required name => quoteJson name ++ " is a required property"
  | .pattern text shown => quoteJson text ++ " does not match \"" ++ shown ++ "\""
  | .format text name => quoteJson text ++ " is not a \"" ++ name ++ "\""
  | .malformedPattern v => v.print ++ " is not a \"regex\""
  | .repeated v => v.print ++ " has non-unique elements"
  | .additionalProperties names => surplus "Additional properties" (names.map inQuotes)
  | .additionalItems items => surplus "Additional items" (items.map Json.print)
  | .unevaluatedProperties names => surplus "Unevaluated properties" (names.map inQuotes)
  | .unevaluatedItems items =>
    surplus "Unevaluated items" (items.map fun v => inQuotes v.print)
  | .contains v => "None of " ++ v.print ++ " are valid under the given schema"
  | .anyOf v =>
    v.print ++ " is not valid under any of the schemas listed in the 'anyOf' keyword"
  | .oneOfNone v =>
    v.print ++ " is not valid under any of the schemas listed in the 'oneOf' keyword"
  | .oneOfMany v =>
    v.print ++ " is valid under more than one of the schemas listed in the 'oneOf' keyword"
  | .not source v => source.print ++ " is not allowed for " ++ v.print

end Violation

end SchemaGate.Rules

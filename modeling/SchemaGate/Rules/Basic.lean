import SchemaGate.Json.Compare
import SchemaGate.Json.Print
import SchemaGate.Pattern.Read

/-!
# Rules for JSON values

A schema is compiled into a tree of rules.  A node allows everything, nothing, or what all its rules
allow; a reference leads to a node by its place in the schema document.
-/

namespace SchemaGate

/-- The versions of the schema language that are told apart. -/
inductive Draft where
  | draft4
  | draft6
  | draft7
  | draft2019
  | draft2020
deriving DecidableEq, Repr

def Draft.number : Draft → Nat
  | .draft4 => 4
  | .draft6 => 6
  | .draft7 => 7
  | .draft2019 => 8
  | .draft2020 => 9

/-- Whether a version is at least as new as another. -/
def Draft.since (d other : Draft) : Bool :=
  other.number ≤ d.number

namespace Rules

/-- The kinds of values, in the order of their names. -/
inductive Kind where
  | array
  | boolean
  | integer
  | null
  | number
  | object
  | string
deriving DecidableEq, Repr

def Kind.all : List Kind :=
  [.array, .boolean, .integer, .null, .number, .object, .string]

def Kind.name : Kind → String
  | .array => "array"
  | .boolean => "boolean"
  | .integer => "integer"
  | .null => "null"
  | .number => "number"
  | .object => "object"
  | .string => "string"

def Kind.ofName? (name : String) : Option Kind :=
  Kind.all.find? fun k => k.name = name

/-- Whether a value is of the kind; `strict` refuses `1.0` as an integer. -/
def Kind.holds (strict : Bool) : Kind → Json → Bool
  | .array, .array _ => true
  | .boolean, .bool _ => true
  | .integer, .number (.integer _) => true
  | .integer, .number (.float f) => !strict && Number.isWhole (.float f)
  | .null, .null => true
  | .number, .number _ => true
  | .object, .object _ => true
  | .string, .string _ => true
  | _, _ => false

inductive Measure where
  | characters
  | items
  | properties
deriving DecidableEq, Repr

inductive Side where
  | least
  | most
deriving DecidableEq, Repr

/-- A place in the schema document, as the names and indexes on the way to it. -/
abbrev Place := List String

mutual

inductive Node where
  | all
  | nothing
  | rules (list : List Rule)

inductive Rule where
  | kinds (strict : Bool) (kinds : List Kind)
  | constant (value : Json)
  | enumeration (values : List Json)
  | bound (side : Side) (inclusive : Bool) (limit : Number)
  | multipleOf (divisor : Float)
  | count (measure : Measure) (side : Side) (limit : Nat)
  | required (names : List String)
  | dependentRequired (names : List (String × List String))
  | pattern (shown : String) (pattern : Pattern)
  | format (name : String) (holds : String → Bool)
  | distinctItems
  | properties (nodes : List (String × Node))
  | patternProperties (nodes : List (Pattern × Node))
  /-- Every member: by its name, by the patterns that its name matches, or by the node for the rest;
  without such a node the rest is refused.  The last name is required. -/
  | closedProperties (named : List (String × Node)) (matched : List (Pattern × Node))
      (rest : Option Node) (required : Option String)
  | noProperties
  | propertyNames (node : Node)
  /-- The items after the first `skipped`. -/
  | items (skipped : Nat) (node : Node)
  | prefixItems (nodes : List Node)
  | noMoreItems (allowed : Nat)
  | contains (node : Node) (least : Nat) (most : Option Nat)
  | dependentNodes (nodes : List (String × (List String ⊕ Node)))
  | allOf (nodes : List Node)
  | anyOf (nodes : List Node)
  | oneOf (nodes : List Node)
  | not (source : Json) (node : Node)
  | condition (test : Node) (yes no : Option Node)
  | unevaluatedProperties (node : Node)
  | unevaluatedItems (node : Node)
  | reference (place : Place)

end

instance : Inhabited Node := ⟨.all⟩

/-- A node, the nodes that references in it lead to, and a bound on how many nodes stand inside each
other in any of them. -/
structure Program where
  root : Node
  targets : List (Place × Node)
  size : Nat

end Rules

end SchemaGate

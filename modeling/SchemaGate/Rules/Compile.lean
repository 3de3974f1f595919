import SchemaGate.Rules.MetaSchema
import SchemaGate.Rules.Reference

/-!
# Compiling schemas

A schema document becomes a program of rules.  It must follow the rules for schemas first; what they
cannot tell, a pattern that is malformed or a reference that leads nowhere, is found on the way, in the
order of the members' names.  A reference is compiled where it is first met.
-/

namespace SchemaGate.Rules

inductive CompileError where
  | violation (v : Violation)
  | reference (e : ReferenceError)
deriving Repr

def CompileError.message : CompileError → String
  | .violation v => v.message
  | .reference e => e.message

/-- The nodes behind references: those under way have none yet. -/
abbrev Targets := List (Place × Option Node)

abbrev CompileM := StateT Targets (Except CompileError)

def refuse {α : Type} (v : Violation) : CompileM α :=
  throw (.violation v)

/-- The keywords in the order in which what they find is reported. -/
def keywordOrder : List String :=
  ["type", "const", "enum", "minimum", "maximum", "exclusiveMinimum", "exclusiveMaximum",
    "multipleOf", "minLength", "maxLength", "minItems", "maxItems", "minProperties", "maxProperties",
    "required", "dependentRequired", "pattern", "format", "uniqueItems", "properties",
    "patternProperties", "additionalProperties", "propertyNames", "items", "prefixItems",
    "additionalItems", "contains", "dependencies", "dependentSchemas", "allOf", "anyOf", "oneOf",
    "not", "if", "unevaluatedProperties", "unevaluatedItems", "$ref", "$recursiveRef", "$dynamicRef"]

def draftOf (document : Json) : Draft :=
  match document.get? "$schema" with
  | some (.string id) =>
    match (Identifier.split id).1 with
    | "http://json-schema.org/draft-04/schema" => .draft4
    | "http://json-schema.org/draft-06/schema" => .draft6
    | "http://json-schema.org/draft-07/schema" => .draft7
    | "https://json-schema.org/draft/2019-09/schema" => .draft2019
    | _ => .draft2020
  | _ => .draft2020

def strings : Json → List String
  | .array items => items.filterMap fun v => match v with
    | .string s => some s
    | _ => none
  | _ => []

def natural? : Json → Option Nat
  | .number (.integer n) => some n.toNat
  | .number (.float f) => ((Dyadic.ofFloat f).toInt?).map Int.toNat
  | _ => none

def kindsOf (v : Json) : List Kind :=
  let names := match v with
    | .string s => [s]
    | v => strings v
  Kind.all.filter fun k => names.contains k.name

/-- A schema object under compilation: how inner schemas are compiled, and what stands around. -/
structure Frame where
  document : Document
  inner : Location → CompileM Node
  place : Place
  base : String
  members : List (String × Json)

namespace Frame

def get? (f : Frame) (name : String) : Option Json :=
  Json.member? f.members name

def node (f : Frame) (steps : List String) (v : Json) : CompileM Node :=
  f.inner ⟨f.place ++ steps, f.base, v⟩

def nodes (f : Frame) (keyword : String) : Json → CompileM (List Node)
  | .array items => items.zipIdx.mapM fun (v, i) => f.node [keyword, toString i] v
  | _ => pure []

def namedNodes (f : Frame) (keyword : String) : Json → CompileM (List (String × Node))
  | .object members => members.mapM fun (name, v) => do
    let n ← f.node [keyword, name] v
    pure (name, n)
  | _ => pure []

def patternNodes (f : Frame) (keyword : String) : Json → CompileM (List (Pattern × Node))
  | .object members => members.mapM fun (name, v) => do
    match Pattern.parse? name with
    | none => refuse (.malformedPattern v)
    | some p => do
      let n ← f.node [keyword, name] v
      pure (p, n)
  | _ => pure []

/-- Whether the members that no name or pattern covers have a rule of their own. -/
def closes (f : Frame) : Bool :=
  match f.get? "additionalProperties" with
  | some (.bool false) => true
  | some (.object _) => true
  | _ => false

/-- The one name that is required in an object that admits named members only. -/
def soleRequired? (f : Frame) : Option String :=
  match f.get? "required", f.get? "additionalProperties" with
  | some (.array [.string name]), some (.bool false) =>
    if (f.get? "properties").isSome ∧ (f.get? "patternProperties").isNone then some name else none
  | _, _ => none

def closedProperties (f : Frame) (v : Json) : CompileM (Option Rule) := do
  match v with
  | .bool false =>
    if (f.get? "properties").isNone ∧ (f.get? "patternProperties").isNone then
      pure (some .noProperties)
    else do
      let matched ← f.patternNodes "patternProperties" ((f.get? "patternProperties").getD .null)
      let named ← f.namedNodes "properties" ((f.get? "properties").getD .null)
      pure (some (.closedProperties named matched none f.soleRequired?))
  | .object _ => do
    let matched ← f.patternNodes "patternProperties" ((f.get? "patternProperties").getD .null)
    let named ← f.namedNodes "properties" ((f.get? "properties").getD .null)
    let rest ← f.node ["additionalProperties"] v
    pure (some (.closedProperties named matched (some rest) none))
  | _ => pure none

def items (f : Frame) (v : Json) : CompileM (Option Rule) := do
  match v with
  | .array _ => do
    let list ← f.nodes "items" v
    pure (some (.prefixItems list))
  | v => do
    let skipped := match f.get? "prefixItems" with
      | some (.array list) => if f.document.draft.since .draft2020 then list.length else 0
      | _ => 0
    let n ← f.node ["items"] v
    pure (some (.items skipped n))

def additionalItems (f : Frame) (v : Json) : CompileM (Option Rule) := do
  match f.get? "items", v with
  | some (.array list), .bool false => pure (some (.noMoreItems list.length))
  | some (.array list), .object _ => do
    let n ← f.node ["additionalItems"] v
    pure (some (.items list.length n))
  | _, _ => pure none

def contains (f : Frame) (v : Json) : CompileM (Option Rule) := do
  let counted := f.document.draft.since .draft2019
  let limit := fun name => if counted then (f.get? name).bind natural? else none
  let n ← f.node ["contains"] v
  pure (some (.contains n ((limit "minContains").getD 1) (limit "maxContains")))

def dependents (f : Frame) (keyword : String) (v : Json) : CompileM (Option Rule) := do
  match v with
  | .object members => do
    let list ← members.mapM fun (name, v) => do
      match v with
      | .array _ => pure (name, Sum.inl (strings v))
      | v => do
        let n ← f.node [keyword, name] v
        pure (name, Sum.inr n)
    pure (some (.dependentNodes list))
  | _ => pure none

def condition (f : Frame) (v : Json) : CompileM (Option Rule) := do
  if (f.get? "then").isNone ∧ (f.get? "else").isNone then pure none
  else do
    let test ← f.node ["if"] v
    let branch := fun name => match f.get? name with
      | some v => do
        let n ← f.node [name] v
        pure (some n)
      | none => pure none
    let yes ← branch "then"
    let no ← branch "else"
    pure (some (.condition test yes no))

def reference (f : Frame) (v : Json) : CompileM (Option Rule) := do
  match v with
  | .string text =>
    match f.document.lookup f.base text with
    | .error e => throw (.reference e)
    | .ok l => do
      let targets ← get
      if (targets.lookup l.place).isNone then do
        set ((l.place, none) :: targets)
        let n ← f.inner l
        modify fun targets => (l.place, some n) :: targets.filter fun t => t.1 ≠ l.place
      pure (some (.reference l.place))
  | _ => pure none

def bound (side : Side) (inclusive : Bool) : Json → CompileM (Option Rule)
  | .number n => pure (some (.bound side inclusive n))
  | _ => pure none

def count (measure : Measure) (side : Side) (v : Json) : CompileM (Option Rule) :=
  pure ((natural? v).map (.count measure side))

def isTrue (f : Frame) (name : String) : Bool :=
  match f.get? name with
  | some (.bool b) => b
  | _ => false

/-- Compiles one member of a schema object; a name that the version does not know has no rule.  There are two
departures from the drafts: the keywords for encoded content have no rule in any of them, and a recursive or
dynamic reference leads to where it is written to lead, whichever schemas the value has come through. -/
def keyword (f : Frame) (name : String) (v : Json) : CompileM (Option Rule) := do
  let draft := f.document.draft
  let isDraft4 : Bool := draft = .draft4
  match name with
  | "type" => pure (some (.kinds isDraft4 (kindsOf v)))
  | "const" => pure (if isDraft4 then none else some (.constant v))
  | "enum" =>
    match v with
    | .array values => pure (some (.enumeration values))
    | _ => pure none
  | "minimum" => bound .least (!(isDraft4 && f.isTrue "exclusiveMinimum")) v
  | "maximum" => bound .most (!(isDraft4 && f.isTrue "exclusiveMaximum")) v
  | "exclusiveMinimum" => if isDraft4 then pure none else bound .least false v
  | "exclusiveMaximum" => if isDraft4 then pure none else bound .most false v
  | "multipleOf" =>
    match v with
    | .number n => pure (some (.multipleOf n.toFloat))
    | _ => pure none
  | "minLength" => count .characters .least v
  | "maxLength" => count .characters .most v
  | "minItems" => count .items .least v
  | "maxItems" => count .items .most v
  | "minProperties" => count .properties .least v
  | "maxProperties" => count .properties .most v
  | "required" => pure (if f.soleRequired?.isSome then none else some (.required (strings v)))
  | "dependentRequired" =>
    match v with
    | .object members =>
      if draft.since .draft2019 then
        pure (some (.dependentRequired (members.map fun (name, v) => (name, strings v))))
      else pure none
    | _ => pure none
  | "pattern" =>
    match v with
    | .string text =>
      match Pattern.parse? text with
      | some p => pure (some (.pattern (Pattern.writeOut text) p))
      | none => refuse (.malformedPattern v)
    | _ => pure none
  | "format" =>
    match v with
    | .string text => pure ((Format.asserted? draft text).map (.format text))
    | _ => pure none
  | "uniqueItems" => pure (if v == .bool true then some .distinctItems else none)
  | "properties" =>
    if f.closes then pure none
    else do
      let list ← f.namedNodes "properties" v
      pure (some (.properties list))
  | "patternProperties" =>
    if f.closes then pure none
    else do
      let list ← f.patternNodes "patternProperties" v
      pure (some (.patternProperties list))
  | "additionalProperties" => f.closedProperties v
  | "propertyNames" =>
    if isDraft4 then pure none
    else do
      let n ← f.node ["propertyNames"] v
      pure (some (.propertyNames n))
  | "items" => f.items v
  | "prefixItems" =>
    if draft.since .draft2020 then do
      let list ← f.nodes "prefixItems" v
      pure (some (.prefixItems list))
    else pure none
  | "additionalItems" => if draft.since .draft2020 then pure none else f.additionalItems v
  | "contains" => if isDraft4 then pure none else f.contains v
  | "dependencies" => f.dependents name v
  | "dependentSchemas" => if draft.since .draft2019 then f.dependents name v else pure none
  | "allOf" => do
    let list ← f.nodes name v
    pure (some (.allOf list))
  | "anyOf" => do
    let list ← f.nodes name v
    pure (some (.anyOf list))
  | "oneOf" => do
    let list ← f.nodes name v
    pure (some (.oneOf list))
  | "not" => do
    let n ← f.node ["not"] v
    pure (some (.not v n))
  | "if" => if draft.since .draft7 then f.condition v else pure none
  | "unevaluatedProperties" =>
    if draft.since .draft2019 then do
      let n ← f.node [name] v
      pure (some (.unevaluatedProperties n))
    else pure none
  | "unevaluatedItems" =>
    if draft.since .draft2019 then do
      let n ← f.node [name] v
      pure (some (.unevaluatedItems n))
    else pure none
  | "$ref" => f.reference v
  | "$recursiveRef" => if draft = .draft2019 then f.reference v else pure none
  | "$dynamicRef" => if draft.since .draft2020 then f.reference v else pure none
  | _ => pure none

end Frame

def inOrder (rules : List (String × Rule)) : List Rule :=
  keywordOrder.flatMap fun name => (rules.filter fun r => r.1 = name).map Prod.snd

/-- Compiles the schema at a location; the fuel bounds how deep schemas and references are nested. -/
def compileNode (d : Document) : (fuel : Nat) → Location → CompileM Node
  | 0, _ => pure .all
  | fuel + 1, l =>
    match l.value with
    | .bool true => pure .all
    | .bool false => pure .nothing
    | .object members => do
      let f : Frame := ⟨d, compileNode d fuel, l.place, enterBase d.draft l.base l.value, members⟩
      let relevant :=
        if refersOnly d.draft members then members.filter fun m => m.1 = "$ref" else members
      let rules ← relevant.filterMapM fun (name, v) => do
        let rule ← f.keyword name v
        pure (rule.map fun r => (name, r))
      pure (.rules (inOrder rules))
    | v => refuse (.kind v [.boolean, .object])

mutual

def valueCount : Json → Nat
  | .array items => valuesIn items + 1
  | .object members => valuesOf members + 1
  | _ => 1

def valuesIn : List Json → Nat
  | [] => 0
  | v :: rest => valueCount v + valuesIn rest

def valuesOf : List (String × Json) → Nat
  | [] => 0
  | (_, v) :: rest => valueCount v + valuesOf rest

end

/-- Compiles a schema document.  Where this departs from the drafts is said at `Frame.keyword` for the rules, at
`Document.lookup` for the references and at `Pattern.parse?` for the patterns. -/
def compile (document : Json) : Except CompileError Program :=
  let draft := draftOf document
  match (MetaSchema.program draft).violations document with
  | v :: _ => .error (.violation v)
  | [] => do
    let size := valueCount document
    let d := Document.of draft document
    let root : Location := ⟨[], Identifier.default, document⟩
    let (node, targets) ← (compileNode d ((size + 1) * (size + 1)) root).run [([], none)]
    .ok ⟨node, ([], node) :: targets.filterMap fun (place, n) => n.map fun n => (place, n), size⟩

end SchemaGate.Rules

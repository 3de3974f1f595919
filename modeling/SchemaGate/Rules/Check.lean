import SchemaGate.Rules.Violation

/-!
# Checking values against rules

The violations of a value in the order in which they are reported: node by node, rule by rule, those
of inner values where the rule that found them stands.  A reference that is met again at the same
value adds nothing, so a schema that refers to itself is harmless.
-/

namespace SchemaGate.Rules

/-- How a check goes on below: the nodes behind references, and the references under way, each with
the value at which it was met. -/
structure Trail where
  targets : List (Place × Node)
  underway : List (Place × Place)

namespace Trail

/-- The node of a reference, unless it is under way at the same value. -/
def enter? (t : Trail) (place at_ : Place) : Option (Node × Trail) :=
  if t.underway.contains (place, at_) then none
  else (t.targets.lookup place).map fun n => (n, { t with underway := (place, at_) :: t.underway })

end Trail

def missingNames (members : List (String × Json)) (names : List String) : List Violation :=
  (names.filter fun n => (Json.member? members n).isNone).map .required

def placed (at_ : Place) (items : List Json) : List (Place × Json) :=
  items.zipIdx.map fun (v, i) => (toString i :: at_, v)

/-- How much of a value has been evaluated. -/
inductive Seen where
  | every
  | some (names : List String)

def Seen.union : Seen → Seen → Seen
  | .every, _ => .every
  | _, .every => .every
  | .some a, .some b => .some (a ++ b)

def Seen.contains (name : String) : Seen → Bool
  | .every => true
  | .some names => names.contains name

/-- What the check of a value under a node gives: violations, or what the node has evaluated of the
value's members and items. -/
structure Findings where
  violations : List Violation
  members : Seen
  items : Seen

namespace Findings

def none : Findings := ⟨[], .some [], .some []⟩

def ofViolations (list : List Violation) : Findings :=
  { none with violations := list }

def ofViolation (v : Violation) : Findings :=
  ofViolations [v]

def isValid (f : Findings) : Bool :=
  f.violations.isEmpty

def add (a b : Findings) : Findings :=
  ⟨a.violations ++ b.violations, a.members.union b.members, a.items.union b.items⟩

def sum (list : List Findings) : Findings :=
  list.foldr add none

def inner (list : List Findings) : List Violation :=
  list.flatMap violations

/-- What is evaluated without what is wrong. -/
def quiet (f : Findings) : Findings :=
  { f with violations := [] }

def requireThat (holds : Bool) (v : Violation) : Findings :=
  if holds then none else ofViolation v

end Findings

def countHolds (side : Side) (limit n : Nat) : Bool :=
  match side with
  | .least => limit ≤ n
  | .most => n ≤ limit

/-- The size of a value in the measure, if it has one. -/
def sizeIn : Measure → Json → Option Nat
  | .characters, .string s => some s.length
  | .items, .array items => some items.length
  | .properties, .object members => some members.length
  | _, _ => none

def boundHolds (side : Side) (inclusive : Bool) (limit n : Number) : Bool :=
  match side, inclusive with
  | .least, true => limit.le n
  | .least, false => limit.lt n
  | .most, true => n.le limit
  | .most, false => n.lt limit

mutual

/-- Checks a value at a place; the fuel bounds how deep nodes, values and references are nested. -/
def check : (fuel : Nat) → Trail → Node → (at_ : Place) → Json → Findings
  | 0, _, _, _, _ => .none
  | _ + 1, _, .all, _, _ => .none
  | _ + 1, _, .nothing, _, v => .ofViolation (.refused v)
  | fuel + 1, t, .rules list, at_, v =>
    let found := list.map fun r => (r, checkRule fuel t r at_ v)
    let seen := Findings.sum (found.map Prod.snd)
    .sum (found.map fun (r, f) => f.add (checkRest fuel t seen r at_ v))

/-- Checks one rule that looks at a value by itself. -/
def checkRule : (fuel : Nat) → Trail → Rule → (at_ : Place) → Json → Findings
  | 0, _, _, _, _ => .none
  | fuel + 1, t, rule, at_, v =>
    match rule, v with
    | .kinds strict ks, v => .requireThat (ks.any (Kind.holds strict · v)) (.kind v ks)
    | .constant e, v => .requireThat (e.same v) (.constant e)
    | .enumeration es, v => .requireThat (es.any (Json.same v)) (.enumeration v es)
    | .bound side inclusive limit, .number n =>
      .requireThat (boundHolds side inclusive limit n) (.bound n side inclusive limit)
    | .multipleOf d, .number n => .requireThat (n.isMultipleOf d) (.multipleOf n d)
    | .count measure side limit, v =>
      match sizeIn measure v with
      | some n => .requireThat (countHolds side limit n) (.count v measure side limit)
      | none => .none
    | .required names, .object members => .ofViolations (missingNames members names)
    | .dependentRequired list, .object members =>
      .ofViolations (list.flatMap fun (name, names) =>
        if (Json.member? members name).isSome then missingNames members names else [])
    | .pattern shown p, .string s => .requireThat (p.occursIn s) (.pattern s shown)
    | .format name holds, .string s => .requireThat (holds s) (.format s name)
    | .distinctItems, .array items => .requireThat (Json.allDistinct items) (.repeated v)
    | .properties nodes, .object members =>
      let found := nodes.filterMap fun (name, node) =>
        (Json.member? members name).map fun v => (name, check fuel t node (name :: at_) v)
      ⟨Findings.inner (found.map Prod.snd), .some (found.map Prod.fst), .some []⟩
    | .patternProperties nodes, .object members =>
      let found := nodes.flatMap fun (p, node) =>
        (members.filter fun m => p.occursIn m.1).map fun (name, v) =>
          (name, check fuel t node (name :: at_) v)
      ⟨Findings.inner (found.map Prod.snd), .some (found.map Prod.fst), .some []⟩
    | .closedProperties named matched rest required, .object members =>
      let found := members.map fun (name, v) =>
        let nodes := (named.lookup name).toList ++
          (matched.filter fun (p, _) => p.occursIn name).map Prod.snd
        match nodes, rest with
        | [], none => (some name, [])
        | [], some node => (none, Findings.violations (check fuel t node (name :: at_) v))
        | nodes, _ =>
          (none, Findings.inner (nodes.map fun node => check fuel t node (name :: at_) v))
      let surplus := found.filterMap Prod.fst
      let lacking := missingNames members required.toList
      ⟨found.flatMap Prod.snd ++
          (if surplus.isEmpty then [] else [.additionalProperties surplus]) ++ lacking,
        .every, .some []⟩
    | .noProperties, .object members =>
      ⟨(members.head?.map fun m => .refused m.2).toList, .every, .some []⟩
    | .propertyNames .nothing, .object members =>
      .requireThat members.isEmpty (.refused v)
    | .propertyNames node, .object members =>
      .ofViolations (Findings.inner (members.map fun (name, _) =>
        check fuel t node (name :: at_) (.string name)))
    | .items skipped node, .array items =>
      ⟨Findings.inner ((placed at_ items |>.drop skipped).map fun (place, v) =>
          check fuel t node place v),
        .some [], .every⟩
    | .prefixItems nodes, .array items =>
      let found := (nodes.zip (placed at_ items)).map fun (node, place, v) =>
        check fuel t node place v
      ⟨Findings.inner found, .some [], .some ((List.range nodes.length).map toString)⟩
    | .noMoreItems allowed, .array items =>
      ⟨if items.length ≤ allowed then [] else [.additionalItems (items.drop allowed)],
        .some [], .every⟩
    | .contains node least most, .array items =>
      let matching := (placed at_ items).zipIdx.filter fun ((place, v), _) =>
        (check fuel t node place v).isValid
      let n := matching.length
      let holds := least ≤ n && (most.map fun m => decide (n ≤ m)).getD true
      ⟨if holds then [] else [.contains v], .some [],
        .some (matching.map fun (_, i) => toString i)⟩
    | .dependentNodes nodes, .object members =>
      .sum (nodes.map fun (name, dependent) =>
        if (Json.member? members name).isSome then
          match dependent with
          | .inl names => .ofViolations (missingNames members names)
          | .inr node => check fuel t node at_ v
        else .none)
    | .allOf nodes, v => .sum (nodes.map fun node => check fuel t node at_ v)
    | .anyOf nodes, v =>
      let found := (nodes.map fun node => check fuel t node at_ v).filter Findings.isValid
      if found.isEmpty then .ofViolation (.anyOf v) else .sum found
    | .oneOf nodes, v =>
      let found := (nodes.map fun node => check fuel t node at_ v).filter Findings.isValid
      match found with
      | [] => .ofViolation (.oneOfNone v)
      | [f] => f
      | _ => .ofViolation (.oneOfMany v)
    | .not source node, v =>
      .requireThat (!(check fuel t node at_ v).isValid) (.not source v)
    | .condition test yes no, v =>
      let tested := check fuel t test at_ v
      let chosen := if tested.isValid then yes else no
      let found := match chosen with
        | some node => check fuel t node at_ v
        | none => .none
      if tested.isValid then tested.add found else found
    | .reference place, v =>
      match t.enter? place at_ with
      | some (node, t) => check fuel t node at_ v
      | none => .none
    | _, _ => .none

/-- Checks one rule that looks at what the rules beside it have not evaluated. -/
def checkRest : (fuel : Nat) → Trail → (seen : Findings) → Rule → (at_ : Place) → Json → Findings
  | 0, _, _, _, _, _ => .none
  | fuel + 1, t, seen, rule, at_, v =>
    match rule, v with
    | .unevaluatedProperties node, .object members =>
      let surplus := members.filter fun (name, v) =>
        !seen.members.contains name && !(check fuel t node (name :: at_) v).isValid
      ⟨if surplus.isEmpty then [] else [.unevaluatedProperties (surplus.map Prod.fst)],
        .every, .some []⟩
    | .unevaluatedItems node, .array items =>
      let surplus := (placed at_ items).zipIdx.filter fun ((place, v), i) =>
        !seen.items.contains (toString i) && !(check fuel t node place v).isValid
      ⟨if surplus.isEmpty then [] else [.unevaluatedItems (surplus.map fun ((_, v), _) => v)],
        .some [], .every⟩
    | _, _ => .none

end

mutual

def depth : Json → Nat
  | .array items => depthItems items + 1
  | .object members => depthMembers members + 1
  | _ => 0

def depthItems : List Json → Nat
  | [] => 0
  | v :: rest => max (depth v) (depthItems rest)

def depthMembers : List (String × Json) → Nat
  | [] => 0
  | (_, v) :: rest => max (depth v) (depthMembers rest)

end

/-- The violations of a value under a compiled schema, in order.  The fuel is larger than any nesting:
between two references the size of the schema bounds it, and at one place of the value no reference
is followed twice. -/
def Program.violations (p : Program) (v : Json) : List Violation :=
  (check (2 * (p.size + 2) * (p.size + 2) * (depth v + 2)) ⟨p.targets, []⟩ p.root [] v).violations

end SchemaGate.Rules

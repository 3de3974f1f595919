import SchemaGate.Json.Read

/-!
# Reading into a shape

Readers for values of a known kind: strings, flags, 16-bit numbers, one of several names, and records,
which may be written as an object or as a list of their fields in order.  A member that the shape does
not know is passed over.
-/

namespace SchemaGate

open Token

/-- Reads from the unread bytes; the number tells how many more brackets may open. -/
abbrev Reader (α : Type) := Nat → Bytes → Except Fault (Parsed α)

namespace Json

def unexpected : Json → Unexpected
  | .null => .null
  | .bool b => .bool b
  | .number n => .number n
  | .string s => .string s
  | .array _ => .list
  | .object _ => .object

end Json

namespace Shape

/-- The fault of a value that is not of the kind expected.  A bracket stays unread, a smaller value is
read first, and its own faults come before. -/
def refuse (expected : String) (s : Bytes) : Fault :=
  match s with
  | [] => .next .expectedValue []
  | b :: _ =>
    if b = openList then .here (.wrongKind .list expected) s
    else if b = openObject then .here (.wrongKind .object expected) s
    else match Json.value 0 s with
      | .ok (v, rest) => .here (.wrongKind v.unexpected expected) rest
      | .error fault => fault

/-- Reads a string and what it stands for. -/
def spelled {α : Type} (expected : String) (meaning : String → Except Cause α) : Reader α :=
  fun _ s =>
    match skipSpace s with
    | [] => .error (.next .endOfValue [])
    | b :: rest =>
      if b = quote then do
        let (text, rest) ← Token.string rest
        match meaning text with
        | .ok a => .ok (a, rest)
        | .error cause => .error (.here cause rest)
      else .error (refuse expected (b :: rest))

def string : Reader String :=
  spelled "a string" .ok

def bool : Reader Bool := fun _ s =>
  match skipSpace s with
  | [] => .error (.next .endOfValue [])
  | b :: rest =>
    if b = 116 then do
      let s ← word restOfTrue rest
      .ok (true, s)
    else if b = 102 then do
      let s ← word restOfFalse rest
      .ok (false, s)
    else .error (refuse "a boolean" (b :: rest))

def unit : Reader Unit := fun _ s =>
  match skipSpace s with
  | [] => .error (.next .endOfValue [])
  | b :: rest =>
    if b = 110 then do
      let s ← word restOfNull rest
      .ok ((), s)
    else .error (refuse "unit" (b :: rest))

def word16 : Number → Except Cause UInt16
  | .integer n =>
    if 0 ≤ n ∧ n < 65536 then .ok (UInt16.ofNat n.toNat)
    else .error (.wrongValue (.number (.integer n)) "u16")
  | .float f => .error (.wrongKind (.number (.float f)) "u16")

def uint16 : Reader UInt16 := fun _ s =>
  match skipSpace s with
  | [] => .error (.next .endOfValue [])
  | b :: rest =>
    if b = minus ∨ isDigit b then do
      let (n, rest) ← if b = minus then Token.number true rest else Token.number false (b :: rest)
      match word16 n with
      | .ok n => .ok (n, rest)
      | .error cause => .error (.here cause rest)
    else .error (refuse "u16" (b :: rest))

def optional {α : Type} (read : Reader α) : Reader (Option α) := fun depth s =>
  let s := skipSpace s
  match s with
  | 110 :: rest => do
    let s ← word restOfNull rest
    .ok (none, s)
  | s => do
    let (a, s) ← read depth s
    .ok (some a, s)

def named {α : Type} (names : List (String × α)) (name : String) : Except Cause α :=
  match names.lookup name with
  | some a => .ok a
  | none => .error (.unknownVariant name (names.map Prod.fst))

def name {α : Type} (names : List (String × α)) : Reader α :=
  spelled "variant identifier" (named names)

/-- Reads one of the names, or an object with a member of that name and the value `null`. -/
def choice {α : Type} (names : List (String × α)) : Reader α := fun depth s =>
  match skipSpace s with
  | [] => .error (.next .endOfValue [])
  | b :: rest =>
    if b = quote then name names depth (b :: rest)
    else if b = openObject then
      match depth with
      | 0 => .error (.next .tooDeep (b :: rest))
      | depth + 1 => do
        let (a, s) ← name names depth rest
        let s ← Json.readColon s
        let (_, s) ← unit depth s
        match skipSpace s with
        | [] => .error (.here .endOfObject [])
        | c :: after =>
          if c = closeObject then .ok (a, after) else .error (.here .expectedValue (c :: after))
    else .error (.next .expectedValue (b :: rest))

/-- A field of a record: its name, whether it must be given, and how it is read into the record. -/
structure Field (α : Type) where
  name : String
  needed : Bool
  read : Reader (α → α)

def field {α β : Type} (name : String) (needed : Bool) (read : Reader β) (store : β → α → α) :
    Field α :=
  ⟨name, needed, fun depth s => do
    let (b, s) ← read depth s
    .ok (store b, s)⟩

def counted (n : Nat) : String :=
  toString n ++ (if n = 1 then " element" else " elements")

/-- The first field that must be given and is not. -/
def missing {α : Type} (fields : List (Field α)) (seen : List String) : Option String :=
  (fields.find? fun f => f.needed && !seen.contains f.name).map Field.name

def member {α : Type} (fields : List (Field α)) (depth : Nat) (name : String)
    (state : α × List String) (s : Bytes) : Except Fault (Parsed (α × List String)) :=
  match fields.find? fun f => f.name = name with
  | none => do
    let s ← Json.readColon s
    let s ← Json.skip s
    .ok (state, s)
  | some f =>
    if state.2.contains name then .error (.loose (.duplicateField name) s)
    else do
      let s ← Json.readColon s
      let (update, s) ← f.read depth s
      .ok ((update state.1, name :: state.2), s)

def fromMembers {α : Type} (fields : List (Field α)) (blank : α) (depth : Nat) (s : Bytes) :
    Except Fault (Parsed α) := do
  let (state, s) ← Json.members (member fields depth) (s.length + 1) true (blank, []) s
  match missing fields state.2 with
  | some name => .error (.loose (.missingField name) s)
  | none => .ok (state.1, s)

/-- Reads the fields from the list's items; `read` counts the items before, and `expected` names a
full list. -/
def fromItems {α : Type} (expected : String) (depth : Nat) :
    List (Field α) → (read : Nat) → α → Bytes → Except Fault (Parsed α)
  | [], _, a, s => .ok (a, s)
  | f :: fields, read, a, s => do
    match ← Json.nextItem (read = 0) s with
    | some s => do
      let (update, s) ← f.read depth s
      fromItems expected depth fields (read + 1) (update a) s
    | none =>
      if f.needed then .error (.loose (.wrongLength read expected) s)
      else fromItems expected depth fields read a s

/-- Reads a record; fields that are not given keep their value in `blank`. -/
def record {α : Type} (label : String) (fields : List (Field α)) (blank : α) : Reader α :=
  fun depth s =>
    match skipSpace s with
    | [] => .error (.next .endOfValue [])
    | b :: rest =>
      if b = openList ∨ b = openObject then
        match depth with
        | 0 => .error (.next .tooDeep (b :: rest))
        | depth + 1 =>
          if b = openList then
            Json.inList (fromItems (label ++ " with " ++ counted fields.length) depth fields 0 blank)
              (b :: rest)
          else Json.inObject (fromMembers fields blank depth) (b :: rest)
      else .error (refuse label (b :: rest))

/-- A value read for its fields: the members of an object in their order, or the items of a list.  One of
several records, which a member tells apart, is read whole before its fields are looked at, so a fault in
them has no place of its own. -/
inductive Content where
  | members (list : List (String × Json))
  | items (list : List Json)
deriving Repr

/-- A record of strings behind a tag: how its fields are called and what they make. -/
structure Variant (α : Type) where
  label : String
  fields : List String
  make : List String → α

def textOf : Json → Except Cause String
  | .string text => .ok text
  | v => .error (.wrongKind v.unexpected "a string")

/-- The texts of the members that name a field. -/
def gatherMembers (fields : List String) :
    (given : List (String × String)) → List (String × Json) → Except Cause (List (String × String))
  | given, [] => .ok given
  | given, (name, value) :: rest =>
    if fields.contains name then
      if (given.lookup name).isSome then .error (.duplicateField name)
      else do
        let text ← textOf value
        gatherMembers fields ((name, text) :: given) rest
    else gatherMembers fields given rest

def gatherItems (expected : String) :
    List String → (read : Nat) → List Json → Except Cause (List String)
  | [], _, [] => .ok []
  | [], read, rest => .error (.wrongLength (read + rest.length) (counted read ++ " in sequence"))
  | _ :: _, read, [] => .error (.wrongLength read expected)
  | _ :: fields, read, v :: rest => do
    let text ← textOf v
    let texts ← gatherItems expected fields (read + 1) rest
    .ok (text :: texts)

def Variant.ofContent {α : Type} (v : Variant α) : Content → Except Cause α
  | .members list => do
    let given ← gatherMembers v.fields [] list
    let texts ← v.fields.mapM fun name =>
      match given.lookup name with
      | some text => .ok text
      | none => .error (.missingField name)
    .ok (v.make texts)
  | .items list => do
    let texts ← gatherItems (v.label ++ " with " ++ counted v.fields.length) v.fields 0 list
    .ok (v.make texts)

def taggedMember {α : Type} (tag : String) (variants : List (String × α)) (depth : Nat)
    (name : String) (state : Option α × List (String × Json)) (s : Bytes) :
    Except Fault (Parsed (Option α × List (String × Json))) :=
  if name = tag then
    if state.1.isSome then .error (.loose (.duplicateField tag) s)
    else do
      let s ← Json.readColon s
      let (v, s) ← Shape.name variants depth s
      .ok ((some v, state.2), s)
  else do
    let s ← Json.readColon s
    let (v, s) ← Json.value depth s
    .ok ((state.1, (name, v) :: state.2), s)

def taggedMembers {α : Type} (tag : String) (variants : List (String × α)) (depth : Nat) (s : Bytes) :
    Except Fault (Parsed (α × Content)) := do
  let (state, s) ← Json.members (taggedMember tag variants depth) (s.length + 1) true (none, []) s
  match state.1 with
  | none => .error (.loose (.missingField tag) s)
  | some v => .ok ((v, .members state.2.reverse), s)

def taggedItems {α : Type} (tag : String) (variants : List (String × α)) (depth : Nat) (s : Bytes) :
    Except Fault (Parsed (α × Content)) := do
  match ← Json.nextItem true s with
  | none => .error (.loose (.missingField tag) s)
  | some s => do
    let (v, s) ← Shape.name variants depth s
    let (rest, s) ← Json.items (Json.value depth) (s.length + 1) false s
    .ok ((v, .items rest), s)

def tagged {α : Type} (label tag : String) (variants : List (String × Variant α)) : Reader α :=
  fun depth s =>
    match skipSpace s with
    | [] => .error (.next .endOfValue [])
    | b :: rest =>
      if b = openList ∨ b = openObject then
        match depth with
        | 0 => .error (.next .tooDeep (b :: rest))
        | depth + 1 => do
          let ((v, content), s) ←
            if b = openList then Json.inList (taggedItems tag variants depth) (b :: rest)
            else Json.inObject (taggedMembers tag variants depth) (b :: rest)
          match v.ofContent content with
          | .ok a => .ok (a, s)
          | .error cause => .error (.loose cause s)
      else .error (refuse label (b :: rest))

end Shape

end SchemaGate

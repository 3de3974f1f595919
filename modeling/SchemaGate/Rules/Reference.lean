import SchemaGate.Rules.Basic
import SchemaGate.Text.Utf8

/-!
# References

The places that a schema document can be referred to by: identifiers, anchors and pointers.  An
identifier is resolved against the one around it.
-/

namespace SchemaGate.Rules

inductive ReferenceError where
  | unknownPointer (pointer : String)
  | unknownAnchor (name : String)
  | unknownResource (identifier : String)
deriving DecidableEq, Repr

def ReferenceError.message : ReferenceError → String
  | .unknownPointer p => "Pointer '" ++ p ++ "' does not exist"
  | .unknownAnchor a => "Anchor '" ++ a ++ "' does not exist"
  | .unknownResource r => "Resource '" ++ r ++ "' is not present in a registry and retrieving it failed"

namespace Identifier

def default : String := "json-schema:///"

/-- The text before and after the first number sign. -/
def split (text : String) : String × Option String :=
  let cs := text.toList
  let front := cs.takeWhile (· != '#')
  if front.length < cs.length then (String.ofList front, some (String.ofList (cs.drop (front.length + 1))))
  else (text, none)

def schemeLength? (cs : List Char) : Option Nat :=
  let scheme := cs.takeWhile (· != ':')
  if scheme.length < cs.length ∧ (scheme.head?.map Char.isAlpha).getD false ∧
      scheme.all fun c => c.isAlphanum || c = '+' || c = '-' || c = '.' then
    some (scheme.length + 1)
  else none

def authority (cs : List Char) : List Char :=
  let n := (schemeLength? cs).getD 0
  match cs.drop n with
  | '/' :: '/' :: rest => cs.take n ++ '/' :: '/' :: rest.takeWhile (· != '/')
  | _ => cs.take n

/-- Steps of a path without the ones that stay or go back. -/
def plainSteps : (before : List (List Char)) → List (List Char) → List (List Char)
  | before, [] => before.reverse
  | before, step :: rest =>
    if step = ['.'] then plainSteps (if rest.isEmpty then [] :: before else before) rest
    else if step = ['.', '.'] then
      plainSteps (if rest.isEmpty then [] :: before.tail else before.tail) rest
    else plainSteps (step :: before) rest

def stepsOf : List Char → List (List Char)
  | [] => [[]]
  | c :: rest =>
    if c = '/' then [] :: stepsOf rest
    else match stepsOf rest with
      | [] => [[c]]
      | step :: steps => (c :: step) :: steps

/-- A path that begins with a slash, without steps that stay or go back. -/
def plainPath (path : List Char) : List Char :=
  match path with
  | '/' :: rest => (plainSteps [] (stepsOf rest)).flatMap fun step => '/' :: step
  | path => path

/-- The identifier, without a fragment, that a reference means where `base` is in force. -/
def resolve (base reference : String) : String :=
  let ref := (split reference).1.toList
  let root := authority base.toList
  if ref.isEmpty then base
  else if (schemeLength? ref).isSome then String.ofList ref
  else match ref with
    | '/' :: '/' :: _ =>
      String.ofList (base.toList.take ((schemeLength? base.toList).getD 0) ++ ref)
    | '/' :: _ => String.ofList (root ++ plainPath ref)
    | _ =>
      let path := base.toList.drop root.length
      let folder := (path.reverse.dropWhile (· != '/')).reverse
      let folder := if folder.isEmpty then ['/'] else folder
      String.ofList (root ++ plainPath (folder ++ ref))

end Identifier

def hexPair? (a b : Char) : Option UInt8 := do
  let a ← Pattern.hexValue? a
  let b ← Pattern.hexValue? b
  some (UInt8.ofNat (a * 16 + b))

/-- The text with percent-encoded bytes written out. -/
def percentDecode (text : String) : String :=
  Utf8.lossy (go text.toList)
where
  go : List Char → Bytes
    | '%' :: a :: b :: rest =>
      match hexPair? a b with
      | some byte => byte :: go rest
      | none => Utf8.encode "%" ++ go (a :: b :: rest)
    | c :: rest => Utf8.encode c.toString ++ go rest
    | [] => []

def unescape : List Char → List Char
  | '~' :: '1' :: rest => '/' :: unescape rest
  | '~' :: '0' :: rest => '~' :: unescape rest
  | c :: rest => c :: unescape rest
  | [] => []

def pointerSteps (pointer : String) : List String :=
  ((Identifier.stepsOf (percentDecode pointer).toList).drop 1).map fun step =>
    String.ofList (unescape step)

/-- What the schema language calls an identifier. -/
def idKeyword (draft : Draft) : String :=
  if draft = .draft4 then "id" else "$id"

/-- Whether an object consists of its reference alone, whatever else it holds. -/
def refersOnly (draft : Draft) (members : List (String × Json)) : Bool :=
  !draft.since .draft2019 && (Json.member? members "$ref").isSome

def ownId? (draft : Draft) (v : Json) : Option String :=
  match v with
  | .object members =>
    if refersOnly draft members then none
    else match Json.member? members (idKeyword draft) with
      | some (.string id) => if id.toList.head? = some '#' then none else some id
      | _ => none
  | _ => none

/-- The identifier in force inside a value. -/
def enterBase (draft : Draft) (base : String) (v : Json) : String :=
  match ownId? draft v with
  | some id => Identifier.resolve base id
  | none => base

/-- The names of a value that are anchors. -/
def anchors (draft : Draft) (v : Json) : List String :=
  match v with
  | .object members =>
    let named := fun keyword => match Json.member? members keyword with
      | some (.string name) => [name]
      | _ => []
    if draft.since .draft2020 then named "$anchor" ++ named "$dynamicAnchor"
    else if draft.since .draft2019 then named "$anchor"
    else (named (idKeyword draft)).filterMap fun id =>
      if id.toList.head? = some '#' then some (String.ofList (id.toList.drop 1)) else none
  | _ => []

/-- What a document can be referred to by, each with its place and the identifier in force there. -/
structure Landmarks where
  resources : List (String × Place)
  anchors : List ((String × String) × Place)

def Landmarks.append (a b : Landmarks) : Landmarks :=
  ⟨a.resources ++ b.resources, a.anchors ++ b.anchors⟩

mutual

/-- The landmarks in a value at a place, where `base` is the identifier around it. -/
def landmarks (draft : Draft) (base : String) (place : Place) : Json → Landmarks
  | .object members =>
    let v := Json.object members
    let base := enterBase draft base v
    let own : Landmarks :=
      ⟨if (ownId? draft v).isSome then [(base, place)] else [],
        (anchors draft v).map fun a => ((base, a), place)⟩
    own.append (landmarksOfMembers draft base place members)
  | .array items => landmarksOfItems draft base place 0 items
  | _ => ⟨[], []⟩

def landmarksOfMembers (draft : Draft) (base : String) (place : Place) :
    List (String × Json) → Landmarks
  | [] => ⟨[], []⟩
  | (name, v) :: rest =>
    let here := if name = "enum" ∨ name = "const" then ⟨[], []⟩
      else landmarks draft base (place ++ [name]) v
    here.append (landmarksOfMembers draft base place rest)

def landmarksOfItems (draft : Draft) (base : String) (place : Place) (i : Nat) :
    List Json → Landmarks
  | [] => ⟨[], []⟩
  | v :: rest =>
    (landmarks draft base (place ++ [toString i]) v).append
      (landmarksOfItems draft base place (i + 1) rest)

end

structure Document where
  draft : Draft
  root : Json
  base : String
  marks : Landmarks

def Document.of (draft : Draft) (root : Json) : Document :=
  let base := enterBase draft Identifier.default root
  ⟨draft, root, base, (landmarks draft Identifier.default [] root).append ⟨[(base, [])], []⟩⟩

/-- A value of a document, its place and the identifier in force around it. -/
structure Location where
  place : Place
  base : String
  value : Json

namespace Document

def follow? (d : Document) : Location → List String → Option Location
  | l, [] => some l
  | l, step :: rest =>
    let base := enterBase d.draft l.base l.value
    let next := match l.value with
      | .object members => Json.member? members step
      | .array items => step.toNat?.bind fun i => items[i]?
      | _ => none
    next.bind fun v => d.follow? ⟨l.place ++ [step], base, v⟩ rest

def at? (d : Document) (place : Place) : Option Location :=
  d.follow? ⟨[], Identifier.default, d.root⟩ place

/-- Where a reference leads when `base` is the identifier in force.  It leads to a place in the document or
nowhere; the meta-schemas of the drafts are not at hand to be referred to. -/
def lookup (d : Document) (base reference : String) : Except ReferenceError Location :=
  let identifier := Identifier.resolve base reference
  let fragment := ((Identifier.split reference).2).getD ""
  match (d.marks.resources.lookup identifier).bind d.at? with
  | none => .error (.unknownResource identifier)
  | some l =>
    if fragment.isEmpty then .ok l
    else if fragment.toList.head? = some '/' then
      match d.follow? l (pointerSteps fragment) with
      | some l => .ok l
      | none => .error (.unknownPointer fragment)
    else
      match (d.marks.anchors.lookup (identifier, percentDecode fragment)).bind d.at? with
      | some l => .ok l
      | none => .error (.unknownAnchor fragment)

end Document

end SchemaGate.Rules

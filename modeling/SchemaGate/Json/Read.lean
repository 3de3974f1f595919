import SchemaGate.Json.Token

/-!
# Reading JSON values

Brackets, the values between them, and values that are passed over unread.  At most 127 brackets may
stand open around a value.
-/

namespace SchemaGate

open Token

namespace Json

/-- The unread bytes at the next item, or none at the end of the list. -/
def nextItem (first : Bool) (s : Bytes) : Except Fault (Option Bytes) :=
  match skipSpace s with
  | [] => .error (.next .endOfList [])
  | b :: rest =>
    if b = closeList then .ok none
    else if first then .ok (some (b :: rest))
    else if b = comma then
      match skipSpace rest with
      | [] => .error (.next .endOfValue [])
      | c :: after =>
        if c = closeList then .error (.next .trailingComma (c :: after)) else .ok (some (c :: after))
    else .error (.next .expectedListComma (b :: rest))

def endList (s : Bytes) : Except Fault Bytes :=
  match skipSpace s with
  | [] => .error (.next .endOfList [])
  | b :: rest =>
    if b = closeList then .ok rest
    else if b = comma then
      let after := skipSpace rest
      .error (.next (if after.head? = some closeList then .trailingComma else .trailingCharacters)
        after)
    else .error (.next .trailingCharacters (b :: rest))

/-- What is unread after an attempt to read the end of a list. -/
def settleList (s : Bytes) : Bytes :=
  match skipSpace s with
  | [] => []
  | b :: rest =>
    if b = closeList then rest else if b = comma then skipSpace rest else b :: rest

def inList {α : Type} (body : Bytes → Except Fault (Parsed α)) (s : Bytes) :
    Except Fault (Parsed α) :=
  match body s.tail with
  | .ok (a, s) => do
    let s ← endList s
    .ok (a, s)
  | .error fault => .error (fault.place settleList)

def items {α : Type} (item : Bytes → Except Fault (Parsed α)) :
    (fuel : Nat) → (first : Bool) → Bytes → Except Fault (Parsed (List α))
  | 0, _, _ => .error (.next .endOfList [])
  | fuel + 1, first, s => do
    match ← nextItem first s with
    | none => .ok ([], s)
    | some s => do
      let (a, s) ← item s
      let (rest, s) ← items item fuel false s
      .ok (a :: rest, s)

/-- The name of the next member and what follows it, or none at the end of the object. -/
def nextName (first : Bool) (s : Bytes) : Except Fault (Option (Parsed String)) :=
  match skipSpace s with
  | [] => .error (.next .endOfObject [])
  | b :: rest =>
    if b = closeObject then .ok none
    else if first then
      if b = quote then (Token.string rest).map some else .error (.next .keyMustBeString (b :: rest))
    else if b = comma then
      match skipSpace rest with
      | [] => .error (.next .endOfValue [])
      | c :: after =>
        if c = quote then (Token.string after).map some
        else .error (.next (if c = closeObject then .trailingComma else .keyMustBeString)
          (c :: after))
    else .error (.next .expectedObjectComma (b :: rest))

def readColon (s : Bytes) : Except Fault Bytes :=
  match skipSpace s with
  | [] => .error (.next .endOfObject [])
  | b :: rest => if b = colon then .ok rest else .error (.next .expectedColon (b :: rest))

def endObject (s : Bytes) : Except Fault Bytes :=
  match skipSpace s with
  | [] => .error (.next .endOfObject [])
  | b :: rest =>
    if b = closeObject then .ok rest
    else .error (.next (if b = comma then .trailingComma else .trailingCharacters) (b :: rest))

/-- What is unread after an attempt to read the end of an object. -/
def settleObject (s : Bytes) : Bytes :=
  match skipSpace s with
  | [] => []
  | b :: rest => if b = closeObject then rest else b :: rest

def inObject {α : Type} (body : Bytes → Except Fault (Parsed α)) (s : Bytes) :
    Except Fault (Parsed α) :=
  match body s.tail with
  | .ok (a, s) => do
    let s ← endObject s
    .ok (a, s)
  | .error fault => .error (fault.place settleObject)

/-- Reads all members of an object into a state; `step` gets a name and what follows it.  The fuel
bounds the number of members. -/
def members {σ : Type} (step : String → σ → Bytes → Except Fault (Parsed σ)) :
    (fuel : Nat) → (first : Bool) → σ → Bytes → Except Fault (Parsed σ)
  | 0, _, _, _ => .error (.next .endOfObject [])
  | fuel + 1, first, state, s => do
    match ← nextName first s with
    | none => .ok (state, s)
    | some (name, s) => do
      let (state, s) ← step name state s
      members step fuel false state s

/-- Reads a value whose items and members are read by `inner`; without it no bracket may open. -/
def valueWith (inner : Option (Bytes → Except Fault (Parsed Json))) (s : Bytes) :
    Except Fault (Parsed Json) :=
  match skipSpace s with
  | [] => .error (.next .endOfValue [])
  | b :: rest =>
    if b = 110 then do
      let s ← word restOfNull rest
      .ok (.null, s)
    else if b = 116 then do
      let s ← word restOfTrue rest
      .ok (.bool true, s)
    else if b = 102 then do
      let s ← word restOfFalse rest
      .ok (.bool false, s)
    else if b = minus then do
      let (n, s) ← Token.number true rest
      .ok (.number n, s)
    else if isDigit b then do
      let (n, s) ← Token.number false (b :: rest)
      .ok (.number n, s)
    else if b = quote then do
      let (text, s) ← Token.string rest
      .ok (.string text, s)
    else if b = openList then
      match inner with
      | none => .error (.next .tooDeep (b :: rest))
      | some inner => do
        let (list, s) ← inList (fun s => items inner (s.length + 1) true s) (b :: rest)
        .ok (.array list, s)
    else if b = openObject then
      match inner with
      | none => .error (.next .tooDeep (b :: rest))
      | some inner => do
        let step := fun name sorted s => do
          let s ← readColon s
          let (v, s) ← inner s
          .ok (putNamed name v sorted, s)
        let (sorted, s) ← inObject (fun s => members step (s.length + 1) true [] s) (b :: rest)
        .ok (.object sorted, s)
    else .error (.next .expectedValue (b :: rest))

/-- Reads a value around which `depth` more brackets may open. -/
def value : (depth : Nat) → Bytes → Except Fault (Parsed Json)
  | 0 => valueWith none
  | depth + 1 => valueWith (some (value depth))

def skipString : (fuel : Nat) → Bytes → Except Fault Bytes
  | 0, _ => .error (.here .endOfString [])
  | _ + 1, [] => .error (.here .endOfString [])
  | fuel + 1, b :: s =>
    if b = quote then .ok s
    else if b = backslash then
      match s with
      | [] => .error (.here .endOfString [])
      | c :: s =>
        if c = 117 then do
          let (_, s) ← hexEscape s
          skipString fuel s
        else if [34, 92, 47, 98, 102, 110, 114, 116].contains c then skipString fuel s
        else .error (.here .invalidEscape s)
    else if b < 32 then .error (.here .controlCharacter (b :: s))
    else skipString fuel s

def skipExponent (s : Bytes) : Except Fault Bytes :=
  let s := match s with
    | plus :: s => s
    | minus :: s => s
    | s => s
  match s with
  | [] => .error (.here .invalidNumber [])
  | d :: s => if isDigit d then .ok (s.dropWhile isDigit) else .error (.here .invalidNumber s)

def skipTail (s : Bytes) : Except Fault Bytes :=
  match s with
  | [] => .ok []
  | b :: rest => if isExponentMark b then skipExponent rest else .ok s

def skipNumber : Bytes → Except Fault Bytes
  | [] => .error (.here .invalidNumber [])
  | d :: s =>
    if !isDigit d then .error (.here .invalidNumber s)
    else if d = zero ∧ (s.head?.map isDigit).getD false then .error (.next .invalidNumber s)
    else
      match s.dropWhile isDigit with
      | [] => .ok []
      | b :: rest =>
        if b = point then
          if (rest.head?.map isDigit).getD false then skipTail (rest.dropWhile isDigit)
          else .error (.next .invalidNumber rest)
        else skipTail (b :: rest)

def skipName (s : Bytes) : Except Fault Bytes :=
  match skipSpace s with
  | [] => .error (.next .endOfObject [])
  | b :: rest =>
    if b = quote then do
      let s ← skipString (rest.length + 1) rest
      readColon s
    else .error (.next .keyMustBeString (b :: rest))

mutual

/-- Passes over a value inside the brackets of `open`, of which true is a list. -/
def skipOpen : (fuel : Nat) → (opened : List Bool) → Bytes → Except Fault Bytes
  | 0, _, _ => .error (.next .endOfValue [])
  | fuel + 1, opened, s =>
    match skipSpace s with
    | [] => .error (.next .endOfValue [])
    | b :: rest =>
      if b = 110 then do
        let s ← word restOfNull rest
        skipOn fuel true opened s
      else if b = 116 then do
        let s ← word restOfTrue rest
        skipOn fuel true opened s
      else if b = 102 then do
        let s ← word restOfFalse rest
        skipOn fuel true opened s
      else if b = minus then do
        let s ← skipNumber rest
        skipOn fuel true opened s
      else if isDigit b then do
        let s ← skipNumber (b :: rest)
        skipOn fuel true opened s
      else if b = quote then do
        let s ← skipString (rest.length + 1) rest
        skipOn fuel true opened s
      else if b = openList then skipOn fuel false (true :: opened) rest
      else if b = openObject then skipOn fuel false (false :: opened) rest
      else .error (.next .expectedValue (b :: rest))

/-- Goes on after a value, or, if not `after`, after an opening bracket. -/
def skipOn : (fuel : Nat) → (after : Bool) → (opened : List Bool) → Bytes → Except Fault Bytes
  | 0, _, _, _ => .error (.next .endOfValue [])
  | _ + 1, _, [], s => .ok s
  | fuel + 1, after, isList :: opened, s =>
    match skipSpace s with
    | [] => .error (.next (if isList then .endOfList else .endOfObject) [])
    | b :: rest =>
      if (isList && b = closeList) || (!isList && b = closeObject) then skipOn fuel true opened rest
      else if !after || b = comma then
        let s := if after then rest else b :: rest
        if isList then skipOpen fuel (isList :: opened) s
        else do
          let s ← skipName s
          skipOpen fuel (isList :: opened) s
      else .error (.next (if isList then .expectedListComma else .expectedObjectComma) (b :: rest))

end

/-- Passes over a value of any depth, checking its grammar alone. -/
def skip (s : Bytes) : Except Fault Bytes :=
  skipOpen (2 * s.length + 2) [] s

def maxDepth : Nat := 127

def whole {α : Type} (read : Nat → Bytes → Except Fault (Parsed α)) (text : Bytes) :
    Except JsonError α :=
  match read maxDepth text with
  | .error fault => .error (.ofFault text fault)
  | .ok (a, rest) =>
    match skipSpace rest with
    | [] => .ok a
    | s => .error (.ofFault text (.next .trailingCharacters s))

def parse (text : Bytes) : Except JsonError Json :=
  whole value text

end Json

end SchemaGate

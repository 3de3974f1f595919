import SchemaGate.Json.Fault

/-!
# Tokens of JSON text

Readers of words, strings and numbers.  Each takes the unread bytes and returns what it read with the
bytes that follow, or the first fault.
-/

namespace SchemaGate

/-- What was read and what is still unread. -/
abbrev Parsed (α : Type) := α × Bytes

namespace Token

@[match_pattern] abbrev quote : UInt8 := 34
@[match_pattern] abbrev plus : UInt8 := 43
@[match_pattern] abbrev comma : UInt8 := 44
@[match_pattern] abbrev minus : UInt8 := 45
@[match_pattern] abbrev point : UInt8 := 46
@[match_pattern] abbrev zero : UInt8 := 48
@[match_pattern] abbrev colon : UInt8 := 58
@[match_pattern] abbrev openList : UInt8 := 91
@[match_pattern] abbrev backslash : UInt8 := 92
@[match_pattern] abbrev closeList : UInt8 := 93
@[match_pattern] abbrev openObject : UInt8 := 123
@[match_pattern] abbrev closeObject : UInt8 := 125

def isSpace (b : UInt8) : Bool :=
  b = 32 || b = 10 || b = 9 || b = 13

def isDigit (b : UInt8) : Bool :=
  48 ≤ b && b ≤ 57

def isExponentMark (b : UInt8) : Bool :=
  b = 101 || b = 69

def skipSpace (s : Bytes) : Bytes :=
  s.dropWhile isSpace

def word : Bytes → Bytes → Except Fault Bytes
  | [], s => .ok s
  | _ :: _, [] => .error (.here .endOfValue [])
  | w :: ws, b :: s => if b = w then word ws s else .error (.here .expectedIdent s)

def restOfNull : Bytes := [117, 108, 108]
def restOfTrue : Bytes := [114, 117, 101]
def restOfFalse : Bytes := [97, 108, 115, 101]

def hexDigit? (b : UInt8) : Option Nat :=
  if isDigit b then some (b.toNat - 48)
  else if 97 ≤ b ∧ b ≤ 102 then some (b.toNat - 87)
  else if 65 ≤ b ∧ b ≤ 70 then some (b.toNat - 55)
  else none

def hexEscape : Bytes → Except Fault (Parsed Nat)
  | a :: b :: c :: d :: s =>
    match hexDigit? a, hexDigit? b, hexDigit? c, hexDigit? d with
    | some a, some b, some c, some d => .ok (((a * 16 + b) * 16 + c) * 16 + d, s)
    | _, _, _, _ => .error (.here .invalidEscape s)
  | _ => .error (.here .endOfString [])

/-- Reads the second half of a pair of escapes of which the first stood for `high`. -/
def secondHalf (high : Nat) : Bytes → Except Fault (Parsed Nat)
  | [] => .error (.here .endOfString [])
  | b :: s =>
    if b ≠ backslash then .error (.here .endOfEscape s)
    else match s with
      | [] => .error (.here .endOfString [])
      | u :: s =>
        if u ≠ 117 then .error (.here .endOfEscape s)
        else do
          let (low, s) ← hexEscape s
          if low < 0xDC00 ∨ 0xDFFF < low then .error (.here .loneSurrogate s)
          else .ok (0x10000 + (high - 0xD800) * 0x400 + (low - 0xDC00), s)

def escape : Bytes → Except Fault (Parsed Bytes)
  | [] => .error (.here .endOfString [])
  | b :: s =>
    match b with
    | 34 => .ok ([34], s)
    | 92 => .ok ([92], s)
    | 47 => .ok ([47], s)
    | 98 => .ok ([8], s)
    | 102 => .ok ([12], s)
    | 110 => .ok ([10], s)
    | 114 => .ok ([13], s)
    | 116 => .ok ([9], s)
    | 117 => do
      let (n, s) ← hexEscape s
      if 0xDC00 ≤ n ∧ n ≤ 0xDFFF then .error (.here .loneSurrogate s)
      else if 0xD800 ≤ n ∧ n ≤ 0xDBFF then do
        let (n, s) ← secondHalf n s
        .ok (Utf8.encode (Char.ofNat n).toString, s)
      else .ok (Utf8.encode (Char.ofNat n).toString, s)
    | _ => .error (.here .invalidEscape s)

/-- Reads up to the closing quote; `fuel` bounds the characters and escapes. -/
def stringBytes : (fuel : Nat) → (read : Bytes) → Bytes → Except Fault (Parsed Bytes)
  | 0, _, _ => .error (.here .endOfString [])
  | _ + 1, _, [] => .error (.here .endOfString [])
  | fuel + 1, read, b :: s =>
    if b = quote then .ok (read.reverse, s)
    else if b = backslash then do
      let (bytes, s) ← escape s
      stringBytes fuel (bytes.reverse ++ read) s
    else if b < 32 then .error (.here .controlCharacter s)
    else stringBytes fuel (b :: read) s

def string (s : Bytes) : Except Fault (Parsed String) := do
  let (bytes, rest) ← stringBytes (s.length + 1) [] s
  match Utf8.decode? bytes with
  | some text => .ok (text, rest)
  | none =>
    let written := s.take (s.length - rest.length)
    .error (.next .invalidCodePoint (s.drop ((Utf8.fault? written).getD 0)))

/-- The decimal digits gathered so far: as many as one 64-bit word holds, and how many were dropped
after it was full. -/
structure Significand where
  value : Nat
  kept : Nat
  dropped : Nat
deriving DecidableEq, Repr

def Significand.push (sig : Significand) (digit : UInt8) : Significand :=
  let value := sig.value * 10 + (digit.toNat - 48)
  if 0 < sig.dropped ∨ 18446744073709551616 ≤ value then { sig with dropped := sig.dropped + 1 }
  else { sig with value := value, kept := sig.kept + 1 }

def gather (value : Nat) (digits : Bytes) : Significand :=
  digits.foldl Significand.push ⟨value, 0, 0⟩

def powerOfTen (n : Nat) : Float :=
  Float.ofScientific 1 false n

/-- `f · 10 ^ e` by one multiplication or division, after divisions by `10 ^ 308` while the exponent is
below that range; none when the result would be infinite. -/
def scale (f : Float) (e : Int) : Option Float :=
  if e.natAbs ≤ 308 then
    if 0 ≤ e then
      let product := f * powerOfTen e.natAbs
      if product.isInf then none else some product
    else some (f / powerOfTen e.natAbs)
  else if f == 0 then some f
  else if 0 ≤ e then none
  else scale (f / powerOfTen 308) (e + 308)
termination_by (-e).toNat
decreasing_by omega

def signed (negative : Bool) (f : Float) : Float :=
  if negative then -f else f

def floatOfNat (n : Nat) : Float :=
  n.toUInt64.toFloat

def toFloat (negative : Bool) (significand : Nat) (exponent : Int) (rest : Bytes) :
    Except Fault (Parsed Number) :=
  match scale (floatOfNat significand) exponent with
  | some f => .ok (.float (signed negative f), rest)
  | none => .error (.here .numberOutOfRange rest)

def exponent (negative : Bool) (significand : Nat) (start : Int) (s : Bytes) : Except Fault (Parsed Number) :=
  let (down, s) := match s with
    | plus :: s => (false, s)
    | minus :: s => (true, s)
    | s => (false, s)
  match s with
  | [] => .error (.here .endOfValue [])
  | d :: s =>
    if !isDigit d then .error (.here .invalidNumber s)
    else
      let digits := d :: s.takeWhile isDigit
      let rest := s.dropWhile isDigit
      let read := digits.foldl (fun n d => n * 10 + (d.toNat - 48)) 0
      if read < 2147483648 then
        toFloat negative significand (if down then start - (read : Nat) else start + (read : Nat)) rest
      else if significand ≠ 0 ∧ !down then
        .error (.here .numberOutOfRange (s.drop (overflowAt digits - 1)))
      else .ok (.float (signed negative 0), rest)
where
  /-- How many digits have been read when the exponent leaves the range of 32-bit integers. -/
  overflowAt (digits : Bytes) : Nat :=
    (digits.foldl (fun (n, count) d =>
      if 2147483648 ≤ n then (n, count) else (n * 10 + (d.toNat - 48), count + 1)) (0, 0)).2

def tail (negative : Bool) (significand : Nat) (start : Int) (s : Bytes) : Except Fault (Parsed Number) :=
  match s with
  | b :: rest =>
    if isExponentMark b then exponent negative significand start rest
    else toFloat negative significand start s
  | [] => toFloat negative significand start s

def fraction (negative : Bool) (significand : Nat) (start : Int) (s : Bytes) : Except Fault (Parsed Number) :=
  let digits := s.takeWhile isDigit
  let rest := s.dropWhile isDigit
  if digits.isEmpty then
    .error (.next (if rest.isEmpty then .endOfValue else .invalidNumber) rest)
  else
    let sig := gather significand digits
    tail negative sig.value (start - sig.kept) rest

/-- A whole number that is no more than that. -/
def whole (negative : Bool) (significand : Nat) : Number :=
  if !negative then .integer significand
  else if 0 < significand ∧ significand ≤ 9223372036854775808 then .integer (-significand)
  else .float (-floatOfNat significand)

def number (negative : Bool) : Bytes → Except Fault (Parsed Number)
  | [] => .error (.here .endOfValue [])
  | d :: s =>
    if !isDigit d then .error (.here .invalidNumber s)
    else if d = zero ∧ (s.head?.map isDigit).getD false then .error (.next .invalidNumber s)
    else
      let sig := gather 0 (d :: s.takeWhile isDigit)
      let rest := s.dropWhile isDigit
      match rest with
      | b :: after =>
        if b = point then fraction negative sig.value sig.dropped after
        else if isExponentMark b then exponent negative sig.value sig.dropped after
        else if sig.dropped = 0 then .ok (whole negative sig.value, rest)
        else toFloat negative sig.value sig.dropped rest
      | [] =>
        if sig.dropped = 0 then .ok (whole negative sig.value, rest)
        else toFloat negative sig.value sig.dropped rest

end Token

end SchemaGate

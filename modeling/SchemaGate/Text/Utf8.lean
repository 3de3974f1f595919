/-!
# UTF-8

Byte strings and the texts they spell.  Main statements: a byte string spells a text exactly when it
is that text's encoding, so a text has one spelling and encoding loses nothing.
-/

namespace SchemaGate

abbrev Bytes := List UInt8

namespace Utf8

def encode (text : String) : Bytes :=
  text.toByteArray.data.toList

/-- The text that the bytes spell, if they are well-formed UTF-8. -/
def decode? (bytes : Bytes) : Option String :=
  String.fromUTF8? ⟨bytes.toArray⟩

theorem decode?_encode (text : String) : decode? (encode text) = some text := by
  have h : (⟨text.toByteArray.data.toList.toArray⟩ : ByteArray) = text.toByteArray := by simp
  rw [decode?, encode, h, String.fromUTF8?, dif_pos text.isValidUTF8]
  rfl

theorem encode_of_decode? {bytes : Bytes} {text : String} (h : decode? bytes = some text) :
    encode text = bytes := by
  unfold decode? String.fromUTF8? at h
  split at h
  · obtain rfl := Option.some.inj h
    simp [encode, String.fromUTF8]
  · simp at h

theorem encode_append (s t : String) : encode (s ++ t) = encode s ++ encode t := by
  simp [encode, String.toByteArray_append]

@[simp] theorem encode_empty : encode "" = [] := rfl

/-- A character begun but not finished: the bits so far, the bytes still to come and the range that
the next of them must lie in. -/
structure Pending where
  bits : Nat
  missing : Nat
  low : UInt8
  high : UInt8
deriving DecidableEq, Repr

/-- The state after a first byte; a byte that begins no character gives none. -/
def Pending.begin? (byte : UInt8) : Option Pending :=
  if 0xC2 ≤ byte ∧ byte ≤ 0xDF then some ⟨byte.toNat - 0xC0, 1, 0x80, 0xBF⟩
  else if byte = 0xE0 then some ⟨0, 2, 0xA0, 0xBF⟩
  else if byte = 0xED then some ⟨0xD, 2, 0x80, 0x9F⟩
  else if 0xE1 ≤ byte ∧ byte ≤ 0xEF then some ⟨byte.toNat - 0xE0, 2, 0x80, 0xBF⟩
  else if byte = 0xF0 then some ⟨0, 3, 0x90, 0xBF⟩
  else if 0xF1 ≤ byte ∧ byte ≤ 0xF3 then some ⟨byte.toNat - 0xF0, 3, 0x80, 0xBF⟩
  else if byte = 0xF4 then some ⟨4, 3, 0x80, 0x8F⟩
  else none

def Pending.accepts (state : Pending) (byte : UInt8) : Bool :=
  state.low ≤ byte && byte ≤ state.high

def Pending.push (state : Pending) (byte : UInt8) : Pending :=
  ⟨state.bits * 64 + byte.toNat % 64, state.missing - 1, 0x80, 0xBF⟩

def replacement : Char := '\uFFFD'

/-- One mark or character for the byte that follows a finished one. -/
private def startLossy (byte : UInt8) : List Char × Option Pending :=
  if byte < 0x80 then ([Char.ofNat byte.toNat], none)
  else match Pending.begin? byte with
    | some state => ([], some state)
    | none => ([replacement], none)

private def lossyFrom : Option Pending → Bytes → List Char → List Char
  | none, [], out => out.reverse
  | some _, [], out => (replacement :: out).reverse
  | none, byte :: rest, out =>
    let (chars, state) := startLossy byte
    lossyFrom state rest (chars ++ out)
  | some state, byte :: rest, out =>
    if state.accepts byte then
      let next := state.push byte
      if next.missing = 0 then lossyFrom none rest (Char.ofNat next.bits :: out)
      else lossyFrom (some next) rest out
    else
      let (chars, state) := startLossy byte
      lossyFrom state rest (chars ++ replacement :: out)

/-- The text with one replacement mark for each longest run of bytes that begins a character and
does not finish it, or that begins none. -/
def lossy (bytes : Bytes) : String :=
  match decode? bytes with
  | some text => text
  | none => String.ofList (lossyFrom none bytes [])

/-- How many bytes stand before the first one that belongs to no well-formed character, counted from
`start`, the index of the character that `state` has begun. -/
private def faultFrom : Option Pending → (start index : Nat) → Bytes → Option Nat
  | none, _, _, [] => none
  | some _, start, _, [] => some start
  | none, _, index, byte :: rest =>
    if byte < 0x80 then faultFrom none index (index + 1) rest
    else match Pending.begin? byte with
      | some state => faultFrom (some state) index (index + 1) rest
      | none => some index
  | some state, start, index, byte :: rest =>
    if state.accepts byte then
      let next := state.push byte
      if next.missing = 0 then faultFrom none (index + 1) (index + 1) rest
      else faultFrom (some next) start (index + 1) rest
    else some start

def fault? (bytes : Bytes) : Option Nat :=
  faultFrom none 0 0 bytes

theorem lossy_encode (text : String) : lossy (encode text) = text := by
  simp [lossy, decode?_encode]

end Utf8

end SchemaGate

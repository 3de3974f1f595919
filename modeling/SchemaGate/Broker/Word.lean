import SchemaGate.Text.Utf8

/-!
# Words in bytes

Numbers as a fixed number of bytes, the most significant first.  Main statements: what has been
written is read back up to the width, and every byte string is the word of its number.
-/

namespace SchemaGate.Broker

/-- How many numbers a word of that width can hold. -/
def wordRange : (width : Nat) → Nat
  | 0 => 1
  | width + 1 => wordRange width * 256

/-- The last `width` digits of a number to base 256. -/
def wordBytes : (width : Nat) → Nat → Bytes
  | 0, _ => []
  | width + 1, n => UInt8.ofNat (n / wordRange width) :: wordBytes width n

def wordValue (bytes : Bytes) : Nat :=
  bytes.foldl (fun n b => n * 256 + b.toNat) 0

theorem wordRange_pos (width : Nat) : 0 < wordRange width := by
  induction width with
  | zero => exact Nat.one_pos
  | succ width ih => rw [wordRange]; omega

theorem wordRange_add (m n : Nat) : wordRange (m + n) = wordRange m * wordRange n := by
  induction n with
  | zero => exact (Nat.mul_one _).symm
  | succ n ih => rw [← Nat.add_assoc, wordRange, wordRange, ih, Nat.mul_assoc]

@[simp] theorem length_wordBytes (width n : Nat) : (wordBytes width n).length = width := by
  induction width with
  | zero => rfl
  | succ width ih => simp [wordBytes, ih]

theorem foldl_digits (start : Nat) (bytes : Bytes) :
    bytes.foldl (fun n b => n * 256 + b.toNat) start =
      start * wordRange bytes.length + wordValue bytes := by
  induction bytes generalizing start with
  | nil => simp [wordValue, wordRange]
  | cons b bytes ih =>
    rw [wordValue, List.foldl_cons, List.foldl_cons, ih, ih (0 * 256 + b.toNat), List.length_cons,
      wordRange]
    grind

theorem wordValue_cons (b : UInt8) (bytes : Bytes) :
    wordValue (b :: bytes) = b.toNat * wordRange bytes.length + wordValue bytes := by
  rw [wordValue, List.foldl_cons, foldl_digits]
  simp

theorem wordValue_lt (bytes : Bytes) : wordValue bytes < wordRange bytes.length := by
  induction bytes with
  | nil => simp [wordValue, wordRange]
  | cons b bytes ih =>
    rw [wordValue_cons, List.length_cons, wordRange]
    have hb : b.toNat + 1 ≤ 256 := b.toNat_lt
    calc b.toNat * wordRange bytes.length + wordValue bytes
        < b.toNat * wordRange bytes.length + wordRange bytes.length := by omega
      _ = (b.toNat + 1) * wordRange bytes.length := by rw [Nat.add_mul, Nat.one_mul]
      _ ≤ 256 * wordRange bytes.length := Nat.mul_le_mul_right _ hb
      _ = wordRange bytes.length * 256 := Nat.mul_comm _ _

theorem wordValue_wordBytes (width n : Nat) :
    wordValue (wordBytes width n) = n % wordRange width := by
  induction width with
  | zero => simp [wordBytes, wordValue, wordRange, Nat.mod_one]
  | succ width ih =>
    rw [wordBytes, wordValue_cons, ih, length_wordBytes, UInt8.toNat_ofNat', wordRange,
      Nat.mod_mul, Nat.mul_comm, Nat.add_comm]

theorem wordBytes_mod (width n m : Nat) (h : width ≤ m) :
    wordBytes width (n % wordRange m) = wordBytes width n := by
  induction width with
  | zero => rfl
  | succ width ih =>
    have hd : (n % wordRange m) / wordRange width % 256 = n / wordRange width % 256 := by
      obtain ⟨k, rfl⟩ : ∃ k, m = width + 1 + k := ⟨m - (width + 1), by omega⟩
      rw [wordRange_add, wordRange, Nat.mul_assoc, Nat.mod_mul_right_div_self,
        Nat.mod_mul_right_mod]
    rw [wordBytes, wordBytes, ih (by omega)]
    congr 1
    exact UInt8.toNat_inj.1 (by simpa using hd)

theorem wordBytes_wordValue (bytes : Bytes) : wordBytes bytes.length (wordValue bytes) = bytes := by
  induction bytes with
  | nil => rfl
  | cons b bytes ih =>
    have hlt := wordValue_lt bytes
    rw [List.length_cons, wordBytes, wordValue_cons]
    congr 1
    · rw [Nat.mul_comm, Nat.mul_add_div (wordRange_pos _), Nat.div_eq_of_lt hlt]
      exact UInt8.toNat_inj.1 (by simp)
    · rw [← wordBytes_mod bytes.length _ bytes.length (Nat.le_refl _), Nat.mul_comm,
        Nat.mul_add_mod, Nat.mod_eq_of_lt hlt, ih]

end SchemaGate.Broker

import Mathlib
import SchemaGate.Json.Token

/-!
# Tokens as they are written

Strings and whole numbers are read back from the text that is written for them, whatever follows that
cannot belong to them.  Main statements: `string_written`, `number_written`.
-/

namespace SchemaGate

namespace Utf8

theorem encode_ofList (chars : List Char) :
    encode (String.ofList chars) = chars.flatMap String.utf8EncodeChar := by
  rw [encode, String.toByteArray_ofList, List.utf8Encode]
  simp

theorem encode_toString (c : Char) : encode c.toString = String.utf8EncodeChar c := by
  have single : c.toString = String.ofList [c] := rfl
  rw [single, encode_ofList]
  simp

theorem encode_join (texts : List String) : encode (String.join texts) = texts.flatMap encode := by
  have joined (start : String) : encode (texts.foldl (fun r s => r ++ s) start) =
      encode start ++ texts.flatMap encode := by
    induction texts generalizing start with
    | nil => simp
    | cons text texts ih =>
      rw [List.foldl_cons, ih, encode_append, List.flatMap_cons, List.append_assoc]
  rw [String.join, joined, encode_empty, List.nil_append]

theorem utf8EncodeChar_of_lt {c : Char} (h : c.toNat < 128) :
    String.utf8EncodeChar c = [UInt8.ofNat c.toNat] := by
  have small : c.val.toNat ≤ 127 := Nat.le_of_lt_succ h
  simp only [String.utf8EncodeChar, if_pos small]
  rfl

theorem le_of_mem_utf8EncodeChar {c : Char} (h : 128 ≤ c.toNat) {b : UInt8}
    (member : b ∈ String.utf8EncodeChar c) : 128 ≤ b := by
  have large : ¬ c.val.toNat ≤ 127 := Nat.not_le.2 h
  have high (n : Nat) (low : 128 ≤ n) (up : n < 256) : 128 ≤ UInt8.ofNat n := by
    rw [UInt8.le_iff_toNat_le, UInt8.toNat_ofNat', Nat.mod_eq_of_lt up]
    exact low
  simp only [String.utf8EncodeChar, if_neg large] at member
  split at member
  · simp only [List.mem_cons, List.not_mem_nil, or_false] at member
    rcases member with rfl | rfl <;> exact high _ (by omega) (by omega)
  · split at member
    · simp only [List.mem_cons, List.not_mem_nil, or_false] at member
      rcases member with rfl | rfl | rfl <;> exact high _ (by omega) (by omega)
    · simp only [List.mem_cons, List.not_mem_nil, or_false] at member
      rcases member with rfl | rfl | rfl | rfl <;> exact high _ (by omega) (by omega)

end Utf8

namespace Token

def escapeByte (b : UInt8) : Bytes :=
  if b < 128 then Utf8.encode (escapeChar (Char.ofNat b.toNat)) else [b]

/-- A string as it is written, after its opening quote. -/
def closing (text : String) : Bytes :=
  (Utf8.encode text).flatMap escapeByte ++ [quote]

theorem escapeChar_of_plain {c : Char} (visible : 32 ≤ c.toNat) (notQuote : c ≠ '"')
    (notBackslash : c ≠ '\\') : escapeChar c = c.toString := by
  have other (d : Char) (control : d.toNat < 32) : c ≠ d := by
    rintro rfl
    omega
  unfold escapeChar
  split
  case h_1 => exact absurd rfl notQuote
  case h_2 => exact absurd rfl notBackslash
  case h_8 => rw [if_neg (by omega)]
  all_goals exact absurd rfl (other _ (by decide))

theorem encode_escapeChar (c : Char) :
    Utf8.encode (escapeChar c) = (String.utf8EncodeChar c).flatMap escapeByte := by
  by_cases small : c.toNat < 128
  · have byte : (UInt8.ofNat c.toNat).toNat = c.toNat := by
      rw [UInt8.toNat_ofNat']
      omega
    have low : UInt8.ofNat c.toNat < 128 := by
      rw [UInt8.lt_iff_toNat_lt, byte]
      exact small
    rw [Utf8.utf8EncodeChar_of_lt small, List.flatMap_singleton, escapeByte, if_pos low, byte,
      Char.ofNat_toNat]
  · have large := Nat.le_of_not_lt small
    have kept : ∀ b ∈ String.utf8EncodeChar c, escapeByte b = [b] := fun b member =>
      if_neg (UInt8.not_lt.2 (Utf8.le_of_mem_utf8EncodeChar large member))
    have plain : escapeChar c = c.toString := by
      refine escapeChar_of_plain (by omega) ?_ ?_
      all_goals
        rintro rfl
        exact absurd large (by decide)
    rw [plain, Utf8.encode_toString, List.flatMap_congr kept]
    simp

theorem encode_quoteJson (text : String) : Utf8.encode (quoteJson text) = quote :: closing text := by
  have mark : Utf8.encode "\"" = [quote] := by decide
  have body : Utf8.encode (String.join (text.toList.map escapeChar)) =
      (Utf8.encode text).flatMap escapeByte := by
    have chars : Utf8.encode text = text.toList.flatMap String.utf8EncodeChar := by
      rw [← Utf8.encode_ofList, String.ofList_toList]
    rw [Utf8.encode_join, List.flatMap_map, chars, List.flatMap_assoc]
    exact List.flatMap_congr fun c _ => encode_escapeChar c
  rw [quoteJson, Utf8.encode_append, Utf8.encode_append, mark, body]
  rfl

theorem toNat_ofNat_byte (b : UInt8) : (Char.ofNat b.toNat).toNat = b.toNat := by
  have valid : b.toNat.isValidChar := .inl (Nat.lt_trans b.toNat_lt (by decide))
  rw [Char.toNat_ofNat, if_pos valid]

theorem escapeByte_of_plain {b : UInt8} (notQuote : b ≠ quote) (notBackslash : b ≠ backslash)
    (visible : ¬ b < 32) : escapeByte b = [b] := by
  by_cases low : b < 128
  · have code : (Char.ofNat b.toNat).toNat = b.toNat := toNat_ofNat_byte b
    have distinct (d : Char) (ne : b ≠ UInt8.ofNat d.toNat) : Char.ofNat b.toNat ≠ d := by
      rintro rfl
      rw [code, UInt8.ofNat_toNat] at ne
      exact ne rfl
    have plain : escapeChar (Char.ofNat b.toNat) = (Char.ofNat b.toNat).toString := by
      refine escapeChar_of_plain ?_ (distinct _ notQuote) (distinct _ notBackslash)
      rw [code]
      exact Nat.not_lt.1 fun small => visible (UInt8.lt_iff_toNat_lt.2 small)
    have ascii : (Char.ofNat b.toNat).toNat < 128 := by
      rw [code]
      exact UInt8.lt_iff_toNat_lt.1 low
    rw [escapeByte, if_pos low, plain, Utf8.encode_toString, Utf8.utf8EncodeChar_of_lt ascii, code,
      UInt8.ofNat_toNat]
  · rw [escapeByte, if_neg low]

theorem exists_escape {b : UInt8} (escaped : b = quote ∨ b = backslash ∨ b < 32) :
    ∃ e, escapeByte b = backslash :: e ∧ ∀ s, escape (e ++ s) = .ok ([b], s) := by
  have bound : b.toNat < 93 := by
    rcases escaped with rfl | rfl | low
    · decide
    · decide
    · exact Nat.lt_trans (UInt8.lt_iff_toNat_lt.1 low) (by decide)
  -- Each of these bytes has an escape of its own, so they are gone through one by one.
  obtain ⟨n, rfl⟩ : ∃ n : Fin 93, b = UInt8.ofNat n := ⟨⟨b.toNat, bound⟩, by simp⟩
  fin_cases n
  all_goals first
    | exact ⟨_, rfl, fun s => rfl⟩
    | exact absurd escaped (by decide)

theorem escapeByte_cases (b : UInt8) :
    (escapeByte b = [b] ∧ b ≠ quote ∧ b ≠ backslash ∧ ¬ b < 32) ∨
      ∃ e, escapeByte b = backslash :: e ∧ ∀ s, escape (e ++ s) = .ok ([b], s) := by
  by_cases escaped : b = quote ∨ b = backslash ∨ b < 32
  · exact .inr (exists_escape escaped)
  · obtain ⟨notQuote, other⟩ := not_or.1 escaped
    obtain ⟨notBackslash, visible⟩ := not_or.1 other
    exact .inl ⟨escapeByte_of_plain notQuote notBackslash visible, notQuote, notBackslash, visible⟩

theorem escapeByte_ne_nil (b : UInt8) : escapeByte b ≠ [] := by
  rcases escapeByte_cases b with ⟨plain, -⟩ | ⟨e, escaped, -⟩ <;> simp [*]

theorem stringBytes_escapeByte (fuel : Nat) (read : Bytes) (b : UInt8) (s : Bytes) :
    stringBytes (fuel + 1) read (escapeByte b ++ s) = stringBytes fuel (b :: read) s := by
  rcases escapeByte_cases b with ⟨plain, notQuote, notBackslash, visible⟩ | ⟨e, escaped, read_e⟩
  · rw [plain, List.singleton_append, stringBytes, if_neg notQuote, if_neg notBackslash,
      if_neg visible]
  · rw [escaped, List.cons_append, stringBytes, if_neg (by decide), if_pos rfl, read_e]
    rfl

theorem stringBytes_written {fuel : Nat} (bytes : Bytes) (enough : bytes.length < fuel)
    (read rest : Bytes) :
    stringBytes fuel read (bytes.flatMap escapeByte ++ quote :: rest) =
      .ok (read.reverse ++ bytes, rest) := by
  induction bytes generalizing fuel read with
  | nil =>
    obtain ⟨fuel, rfl⟩ := Nat.exists_eq_succ_of_ne_zero (Nat.ne_of_gt enough)
    rw [List.flatMap_nil, List.nil_append, stringBytes, if_pos rfl, List.append_nil]
  | cons b bytes ih =>
    obtain ⟨fuel, rfl⟩ := Nat.exists_eq_succ_of_ne_zero (Nat.ne_of_gt (Nat.zero_lt_of_lt enough))
    have rest_enough : bytes.length < fuel := Nat.lt_of_succ_lt_succ enough
    rw [List.flatMap_cons, List.append_assoc, stringBytes_escapeByte, ih rest_enough]
    simp

theorem length_le_flatMap_escapeByte (bytes : Bytes) :
    bytes.length ≤ (bytes.flatMap escapeByte).length := by
  induction bytes with
  | nil => exact Nat.le_refl 0
  | cons b bytes ih =>
    have one : 1 ≤ (escapeByte b).length := List.length_pos_iff.2 (escapeByte_ne_nil b)
    rw [List.flatMap_cons, List.length_append, List.length_cons]
    omega

/-- A string that was written is read back, whatever follows its closing quote. -/
theorem string_written (text : String) (rest : Bytes) :
    Token.string (closing text ++ rest) = .ok (text, rest) := by
  have enough : (Utf8.encode text).length < (closing text ++ rest).length + 1 := by
    have := length_le_flatMap_escapeByte (Utf8.encode text)
    simp only [closing, List.length_append]
    omega
  have bytes : stringBytes ((closing text ++ rest).length + 1) [] (closing text ++ rest) =
      .ok (Utf8.encode text, rest) := by
    have shape : closing text ++ rest = (Utf8.encode text).flatMap escapeByte ++ quote :: rest := by
      rw [closing, List.append_assoc]
      rfl
    rw [shape] at enough ⊢
    exact stringBytes_written _ enough [] rest
  rw [Token.string, bytes]
  simp only [bind, Except.bind, Utf8.decode?_encode]

def digitByte (c : Char) : UInt8 :=
  UInt8.ofNat c.toNat

def digitBytes (n : Nat) : Bytes :=
  (Nat.toDigits 10 n).map digitByte

/-- No more of a number follows: what does is nothing, a comma or a closing bracket. -/
def Delimited (rest : Bytes) : Prop :=
  ∀ b ∈ rest.head?, b = comma ∨ b = closeList ∨ b = closeObject

theorem delimited_nil : Delimited [] := by
  intro b member
  cases member

theorem delimited_cons {b : UInt8} {rest : Bytes}
    (h : b = comma ∨ b = closeList ∨ b = closeObject) : Delimited (b :: rest) := by
  intro c member
  obtain rfl : b = c := Option.some.inj member
  exact h

theorem Delimited.isDigit_head {rest : Bytes} (h : Delimited rest) :
    ∀ b ∈ rest.head?, isDigit b = false := by
  intro b member
  rcases h b member with rfl | rfl | rfl <;> decide

theorem Delimited.span_digits {ds rest : Bytes} (h : Delimited rest)
    (digits : ∀ b ∈ ds, isDigit b = true) :
    (ds ++ rest).takeWhile isDigit = ds ∧ (ds ++ rest).dropWhile isDigit = rest := by
  have stops : rest.takeWhile isDigit = [] ∧ rest.dropWhile isDigit = rest := by
    cases rest with
    | nil => exact ⟨rfl, rfl⟩
    | cons b rest =>
      have no : ¬ isDigit b = true := Bool.eq_false_iff.1 (h.isDigit_head b rfl)
      exact ⟨List.takeWhile_cons_of_neg no, List.dropWhile_cons_of_neg no⟩
  rw [List.takeWhile_append_of_pos digits, List.dropWhile_append_of_pos digits, stops.1, stops.2,
    List.append_nil]
  exact ⟨rfl, rfl⟩

theorem code_of_isDigit {c : Char} (h : c.isDigit) : 48 ≤ c.toNat ∧ c.toNat ≤ 57 :=
  Char.isDigit_iff_toNat.1 h

theorem toNat_digitByte {c : Char} (h : c.isDigit) : (digitByte c).toNat = c.toNat := by
  have bounds := code_of_isDigit h
  rw [digitByte, UInt8.toNat_ofNat', Nat.mod_eq_of_lt (by omega)]

theorem isDigit_digitByte {c : Char} (h : c.isDigit) : isDigit (digitByte c) = true := by
  have bounds := code_of_isDigit h
  have code := toNat_digitByte h
  simp only [isDigit, Bool.and_eq_true, decide_eq_true_eq, UInt8.le_iff_toNat_le, code]
  exact bounds

theorem isDigit_of_mem_toDigits {n : Nat} {c : Char} (h : c ∈ Nat.toDigits 10 n) : c.isDigit :=
  Nat.isDigit_of_mem_toDigits (by decide) (by decide) h

theorem encode_toString_nat (n : Nat) : Utf8.encode (toString n) = digitBytes n := by
  have digits : toString n = String.ofList (Nat.toDigits 10 n) := Nat.repr_eq_ofList_toDigits
  have single : ∀ c ∈ Nat.toDigits 10 n, String.utf8EncodeChar c = [digitByte c] := by
    intro c member
    have bounds := code_of_isDigit (isDigit_of_mem_toDigits member)
    exact Utf8.utf8EncodeChar_of_lt (by omega)
  rw [digits, Utf8.encode_ofList, List.flatMap_congr single, digitBytes, List.map_eq_flatMap]

theorem head?_toDigits_ne_zero {n : Nat} (h : 0 < n) : (Nat.toDigits 10 n).head? ≠ some '0' := by
  induction n using Nat.strongRecOn with
  | ind n ih =>
    rw [Nat.toDigits_eq_if (by decide)]
    split
    case isTrue small =>
      intro zero
      interval_cases n <;> simp at zero
    case isFalse large =>
      rw [List.head?_append_of_ne_nil _ Nat.toDigits_ne_nil]
      exact ih (n / 10) (by omega) (by omega)

theorem le_ofDigitChars (cs : List Char) (start : Nat) : start ≤ Nat.ofDigitChars 10 cs start := by
  induction cs generalizing start with
  | nil => exact Nat.le_refl _
  | cons c cs ih =>
    rw [Nat.ofDigitChars_cons]
    exact Nat.le_trans (by omega) (ih _)

theorem foldl_push_digits {cs : List Char} (digits : ∀ c ∈ cs, c.isDigit) {start : Nat}
    (fits : Nat.ofDigitChars 10 cs start < 18446744073709551616) (kept : Nat) :
    (cs.map digitByte).foldl Significand.push ⟨start, kept, 0⟩ =
      ⟨Nat.ofDigitChars 10 cs start, kept + cs.length, 0⟩ := by
  induction cs generalizing start kept with
  | nil => rfl
  | cons c cs ih =>
    obtain ⟨digit, others⟩ := List.forall_mem_cons.1 digits
    rw [Nat.ofDigitChars_cons] at fits ⊢
    have below := Nat.lt_of_le_of_lt (le_ofDigitChars cs _) fits
    have step : Significand.push ⟨start, kept, 0⟩ (digitByte c) =
        ⟨10 * start + (c.toNat - '0'.toNat), kept + 1, 0⟩ := by
      have value : start * 10 + ((digitByte c).toNat - 48) = 10 * start + (c.toNat - '0'.toNat) := by
        rw [toNat_digitByte digit, Nat.mul_comm]
        rfl
      have room : ¬ (0 < 0 ∨ 18446744073709551616 ≤ 10 * start + (c.toNat - '0'.toNat)) := by omega
      simp only [Significand.push, value, if_neg room]
    rw [List.map_cons, List.foldl_cons, step, ih others fits, List.length_cons, Nat.add_assoc,
      Nat.add_comm 1]

theorem gather_digitBytes {n : Nat} (fits : n < 18446744073709551616) :
    gather 0 (digitBytes n) = ⟨n, (Nat.toDigits 10 n).length, 0⟩ := by
  have value : Nat.ofDigitChars 10 (Nat.toDigits 10 n) 0 = n :=
    Nat.ofDigitChars_toDigits (by decide) (by decide)
  have kept := foldl_push_digits (fun c => isDigit_of_mem_toDigits) (value.symm ▸ fits) 0
  rw [gather, digitBytes, kept, value, Nat.zero_add]

/-- The digits begin with one that is not zero unless it is the only one. -/
theorem digitBytes_cases (n : Nat) :
    ∃ d ds, digitBytes n = d :: ds ∧ isDigit d ∧ (∀ b ∈ ds, isDigit b) ∧ (d = zero → ds = []) := by
  have digits : ∀ b ∈ digitBytes n, isDigit b := by
    intro b member
    obtain ⟨c, digit, rfl⟩ := List.mem_map.1 member
    exact isDigit_digitByte (isDigit_of_mem_toDigits digit)
  have some : Nat.toDigits 10 n ≠ [] := Nat.toDigits_ne_nil
  obtain ⟨c, cs, written⟩ := List.exists_cons_of_ne_nil some
  have bytes : digitBytes n = digitByte c :: cs.map digitByte := by
    rw [digitBytes, written, List.map_cons]
  rw [bytes] at digits
  obtain ⟨first, others⟩ := List.forall_mem_cons.1 digits
  refine ⟨_, _, bytes, first, others, fun isZero => ?_⟩
  by_cases positive : 0 < n
  · have digit : c.isDigit := isDigit_of_mem_toDigits (written ▸ List.mem_cons_self)
    have notZero : c ≠ '0' := by
      rintro rfl
      exact head?_toDigits_ne_zero positive (by rw [written, List.head?_cons])
    have code := toNat_digitByte digit
    rw [isZero] at code
    exact absurd (Char.toNat_inj.1 code.symm) notZero
  · obtain rfl : n = 0 := Nat.eq_zero_of_not_pos positive
    rw [Nat.toDigits_zero] at written
    rw [← (List.cons.inj written).2, List.map_nil]

theorem number_written {n : Nat} (fits : n < 18446744073709551616) (negative : Bool) {rest : Bytes}
    (delimited : Delimited rest) :
    Token.number negative (digitBytes n ++ rest) = .ok (whole negative n, rest) := by
  obtain ⟨d, ds, bytes, first, others, leading⟩ := digitBytes_cases n
  obtain ⟨taken, left⟩ := delimited.span_digits others
  have noZero : ¬ (d = zero ∧ ((ds ++ rest).head?.map isDigit).getD false) := by
    rintro ⟨isZero, next⟩
    rw [leading isZero, List.nil_append] at next
    cases rest with
    | nil => simp at next
    | cons b rest => simp [delimited.isDigit_head b rfl] at next
  have gathered := gather_digitBytes fits
  rw [bytes] at gathered
  rw [bytes, List.cons_append, Token.number, if_neg (by simp [first]), if_neg noZero]
  simp only [taken, left, gathered]
  cases rest with
  | nil => rfl
  | cons b after =>
    rcases delimited b rfl with rfl | rfl | rfl <;> rfl

theorem word_written (letters rest : Bytes) : word letters (letters ++ rest) = .ok rest := by
  induction letters with
  | nil => rfl
  | cons letter letters ih => rw [List.cons_append, word, if_pos rfl, ih]

end Token

end SchemaGate

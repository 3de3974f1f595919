import SchemaGate.Proofs.Broker.Size

/-!
# Records within their limits

Five kinds of lengths in a record have a limit: the number of its headers, its key, its value, and the name
and the value of each header.  Main statement: a record is written if all of them are within their limits,
and otherwise the writing ends at the first that is not, with everything before it written.
-/

namespace SchemaGate.Broker

def nullableBytes : Option Bytes → Bytes
  | none => wordBytes 4 nullLength
  | some value => wordBytes 4 value.length ++ value

def Header.nameBytes (header : Header) : Bytes :=
  wordBytes 2 (Utf8.encode header.name).length ++ Utf8.encode header.name

def Header.bytes (header : Header) : Bytes :=
  header.nameBytes ++ nullableBytes header.value

def Record.offsetBytes (record : Record) : Bytes :=
  wordBytes 8 record.offset.toUInt64.toNat

/-- What stands before the headers, their number included. -/
def Record.headBytes (record : Record) : Bytes :=
  record.offsetBytes ++ nullableBytes record.key ++ nullableBytes record.value ++
    wordBytes 2 record.headers.length

def Record.bytes (record : Record) : Bytes :=
  record.headBytes ++ record.headers.flatMap Header.bytes

@[simp] theorem length_nullableBytes (value : Option Bytes) :
    (nullableBytes value).length = nullableSize value := by
  cases value <;> simp [nullableBytes, nullableSize]

theorem Header.length_bytes (header : Header) : header.bytes.length = header.encodedSize := by
  simp [bytes, nameBytes, encodedSize, Nat.add_assoc]

theorem Record.length_bytes (record : Record) : record.bytes.length = record.encodedSize := by
  have headers : (record.headers.flatMap Header.bytes).length =
      (record.headers.map Header.encodedSize).sum := by
    rw [List.length_flatMap, List.map_congr_left fun header _ => header.length_bytes]
  rw [bytes, List.length_append, headers, encodedSize]
  simp [headBytes, offsetBytes, Nat.add_assoc]

theorem Record.encodedSize_eq (record : Record) : record.encodedSize =
    18 + (record.key.getD []).length + (record.value.getD []).length +
      (record.headers.map fun header =>
        6 + (Utf8.encode header.name).length + (header.value.getD []).length).sum := by
  have each : ∀ header : Header, header.encodedSize =
      6 + (Utf8.encode header.name).length + (header.value.getD []).length := fun header => by
    rw [Header.encodedSize, nullableSize]
    omega
  rw [encodedSize, List.map_congr_left fun header _ => each header, nullableSize, nullableSize]
  omega

/-- A key or a value is null, or not longer than its length can tell. -/
def NullableFits (value : Option Bytes) : Prop :=
  ∀ bytes, value = some bytes → bytes.length ≤ maxLength

structure Header.Fits (header : Header) : Prop where
  name : (Utf8.encode header.name).length ≤ maxShort
  value : NullableFits header.value

structure Record.Fits (record : Record) : Prop where
  count : record.headers.length ≤ maxShort
  key : NullableFits record.key
  value : NullableFits record.value
  headers : ∀ header ∈ record.headers, header.Fits

/-- The first length of the record that exceeds its limit, as an error, and the bytes that stand before it.
The number of the headers comes before everything, and a header's name before its value. -/
inductive Record.Exceeds (record : Record) : Bytes → WireError → Prop where
  | headerCount (many : maxShort < record.headers.length) :
      Exceeds record [] (.fieldTooLarge .headerCount record.headers.length maxShort)
  | recordKey {key : Bytes} (few : record.headers.length ≤ maxShort) (keyed : record.key = some key)
      (large : maxLength < key.length) :
      Exceeds record record.offsetBytes (.fieldTooLarge .recordKey key.length maxLength)
  | recordValue {value : Bytes} (few : record.headers.length ≤ maxShort)
      (key : NullableFits record.key) (valued : record.value = some value)
      (large : maxLength < value.length) :
      Exceeds record (record.offsetBytes ++ nullableBytes record.key)
        (.fieldTooLarge .recordValue value.length maxLength)
  | headerKey {before after : List Header} {header : Header}
      (few : record.headers.length ≤ maxShort) (key : NullableFits record.key)
      (value : NullableFits record.value) (split : record.headers = before ++ header :: after)
      (earlier : ∀ other ∈ before, other.Fits)
      (large : maxShort < (Utf8.encode header.name).length) :
      Exceeds record (record.headBytes ++ before.flatMap Header.bytes)
        (.fieldTooLarge .headerKey (Utf8.encode header.name).length maxShort)
  | headerValue {before after : List Header} {header : Header} {bytes : Bytes}
      (few : record.headers.length ≤ maxShort) (key : NullableFits record.key)
      (value : NullableFits record.value) (split : record.headers = before ++ header :: after)
      (earlier : ∀ other ∈ before, other.Fits)
      (named : (Utf8.encode header.name).length ≤ maxShort) (valued : header.value = some bytes)
      (large : maxLength < bytes.length) :
      Exceeds record (record.headBytes ++ before.flatMap Header.bytes ++ header.nameBytes)
        (.fieldTooLarge .headerValue bytes.length maxLength)

/-- Every item of a list has a property, or there is a first one that does not. -/
theorem forall_or_first {α : Type} (p : α → Prop) (list : List α) :
    (∀ a ∈ list, p a) ∨
      ∃ before a after, list = before ++ a :: after ∧ (∀ b ∈ before, p b) ∧ ¬ p a := by
  induction list with
  | nil => exact .inl (by simp)
  | cons a list ih =>
    by_cases first : p a
    · rcases ih with all | ⟨before, b, after, rfl, earlier, fails⟩
      · exact .inl (List.forall_mem_cons.2 ⟨first, all⟩)
      · exact .inr ⟨a :: before, b, after, rfl, List.forall_mem_cons.2 ⟨first, earlier⟩, fails⟩
    · exact .inr ⟨[], a, list, rfl, by simp, first⟩

theorem nullableFits_or_exceeds (value : Option Bytes) :
    NullableFits value ∨ ∃ bytes, value = some bytes ∧ maxLength < bytes.length := by
  by_cases fits : NullableFits value
  · exact .inl fits
  · exact .inr (by simpa [NullableFits] using fits)

theorem Record.fits_or_exceeds (record : Record) :
    record.Fits ∨ ∃ bytes error, record.Exceeds bytes error := by
  by_cases few : record.headers.length ≤ maxShort
  · rcases nullableFits_or_exceeds record.key with key | ⟨bytes, keyed, large⟩
    · rcases nullableFits_or_exceeds record.value with value | ⟨bytes, valued, large⟩
      · rcases forall_or_first Header.Fits record.headers with
          headers | ⟨before, header, after, split, earlier, fails⟩
        · exact .inl ⟨few, key, value, headers⟩
        · by_cases named : (Utf8.encode header.name).length ≤ maxShort
          · rcases nullableFits_or_exceeds header.value with fits | ⟨bytes, valued, large⟩
            · exact absurd ⟨named, fits⟩ fails
            · exact .inr ⟨_, _, .headerValue few key value split earlier named valued large⟩
          · exact .inr ⟨_, _, .headerKey few key value split earlier (Nat.lt_of_not_le named)⟩
      · exact .inr ⟨_, _, .recordValue few key valued large⟩
    · exact .inr ⟨_, _, .recordKey few keyed large⟩
  · exact .inr ⟨_, _, .headerCount (Nat.lt_of_not_le few)⟩

namespace Written

theorem ofBytes_append (s t : Bytes) (fault? : Option WireError) :
    ofBytes s ++ ⟨t, fault?⟩ = ⟨s ++ t, fault?⟩ := rfl

theorem append_of_fault (s : Bytes) (fault : WireError) (w : Written) :
    ⟨s, some fault⟩ ++ w = (⟨s, some fault⟩ : Written) := rfl

end Written

theorem checkSize_of_le {field : Field} {size max : Nat} (h : size ≤ max) :
    checkSize field size max = .nothing :=
  if_neg (Nat.not_lt.2 h)

theorem checkSize_of_lt {field : Field} {size max : Nat} (h : max < size) :
    checkSize field size max = .failed (.fieldTooLarge field size max) :=
  if_pos h

section Lists

variable {α : Type} {write : α → Written} {bytes : α → Bytes}

theorem writeAll_of_each {list : List α} (each : ∀ a ∈ list, write a = .ofBytes (bytes a)) :
    writeAll write list = .ofBytes (list.flatMap bytes) := by
  induction list with
  | nil => rfl
  | cons a list ih =>
    obtain ⟨first, others⟩ := List.forall_mem_cons.1 each
    exact writeAll_cons_eq_ofBytes_iff.2 ⟨_, _, first, ih others, List.flatMap_cons⟩

/-- The writing of a list ends in the first item that has a fault. -/
theorem writeAll_of_fault {before after : List α} {a : α} {s : Bytes} {fault : WireError}
    (each : ∀ b ∈ before, write b = .ofBytes (bytes b)) (ends : write a = ⟨s, some fault⟩) :
    writeAll write (before ++ a :: after) = ⟨before.flatMap bytes ++ s, some fault⟩ := by
  have tail : writeAll write (a :: after) = ⟨s, some fault⟩ := by
    change write a ++ writeAll write after = _
    rw [ends, Written.append_of_fault]
  rw [writeAll_append, writeAll_of_each each, tail, Written.ofBytes_append]

end Lists

theorem writeNullable_of_fits {value : Option Bytes} (fits : NullableFits value) (field : Field) :
    writeNullable field value = .ofBytes (nullableBytes value) := by
  cases value with
  | none => rfl
  | some bytes => exact writeNullable_some_eq_ofBytes_iff.2 ⟨fits bytes rfl, rfl⟩

theorem writeNullable_of_large {bytes : Bytes} (large : maxLength < bytes.length) (field : Field) :
    writeNullable field (some bytes) = .failed (.fieldTooLarge field bytes.length maxLength) := by
  rw [writeNullable, checkSize_of_lt large, Written.failed_append]

theorem writeHeader_of_name {header : Header}
    (named : (Utf8.encode header.name).length ≤ maxShort) :
    writeHeader header = .ofBytes header.nameBytes ++ writeNullable .headerValue header.value := by
  rw [writeHeader, checkSize_of_le named, Written.nothing_append, Header.nameBytes]

theorem writeHeader_of_fits {header : Header} (fits : header.Fits) :
    writeHeader header = .ofBytes header.bytes := by
  rw [writeHeader_of_name fits.name, writeNullable_of_fits fits.value,
    Written.ofBytes_append_ofBytes, Header.bytes]

theorem writeRecord_of_few {record : Record} (few : record.headers.length ≤ maxShort) :
    writeRecord record = .ofBytes record.offsetBytes ++
      (writeNullable .recordKey record.key ++ (writeNullable .recordValue record.value ++
        (.ofBytes (wordBytes 2 record.headers.length) ++ writeAll writeHeader record.headers))) := by
  rw [writeRecord, checkSize_of_le few, Written.nothing_append, Record.offsetBytes]

theorem writeRecord_of_head {record : Record} (few : record.headers.length ≤ maxShort)
    (key : NullableFits record.key) (value : NullableFits record.value) :
    writeRecord record = .ofBytes record.headBytes ++ writeAll writeHeader record.headers := by
  rw [writeRecord_of_few few, writeNullable_of_fits key, writeNullable_of_fits value,
    Record.headBytes]
  simp only [← Written.append_assoc, Written.ofBytes_append_ofBytes, List.append_assoc]

theorem writeRecord_of_fits {record : Record} (fits : record.Fits) :
    writeRecord record = .ofBytes record.bytes := by
  have headers : writeAll writeHeader record.headers =
      .ofBytes (record.headers.flatMap Header.bytes) :=
    writeAll_of_each fun header member => writeHeader_of_fits (fits.headers header member)
  rw [writeRecord_of_head fits.count fits.key fits.value, headers, Written.ofBytes_append_ofBytes,
    Record.bytes]

theorem writeRecord_of_header {record : Record} {before after : List Header} {header : Header}
    {s : Bytes} {fault : WireError} (few : record.headers.length ≤ maxShort)
    (key : NullableFits record.key) (value : NullableFits record.value)
    (split : record.headers = before ++ header :: after) (earlier : ∀ other ∈ before, other.Fits)
    (ends : writeHeader header = ⟨s, some fault⟩) :
    writeRecord record = ⟨record.headBytes ++ before.flatMap Header.bytes ++ s, some fault⟩ := by
  have headers : writeAll writeHeader record.headers =
      ⟨before.flatMap Header.bytes ++ s, some fault⟩ := by
    rw [split]
    exact writeAll_of_fault (fun other member => writeHeader_of_fits (earlier other member)) ends
  rw [writeRecord_of_head few key value, headers, Written.ofBytes_append, List.append_assoc]

theorem writeRecord_of_exceeds {record : Record} {bytes : Bytes} {error : WireError}
    (h : record.Exceeds bytes error) : writeRecord record = ⟨bytes, some error⟩ := by
  cases h with
  | headerCount many => rw [writeRecord, checkSize_of_lt many, Written.failed_append]; rfl
  | recordKey few keyed large =>
    rw [writeRecord_of_few few, keyed, writeNullable_of_large large, Written.failed_append,
      Written.failed, Written.ofBytes_append, List.append_nil]
  | recordValue few key valued large =>
    rw [writeRecord_of_few few, writeNullable_of_fits key, valued, writeNullable_of_large large,
      Written.failed_append, ← Written.append_assoc, Written.ofBytes_append_ofBytes, Written.failed,
      Written.ofBytes_append, List.append_nil]
  | @headerKey before after header few key value split earlier large =>
    have ends : writeHeader header =
        ⟨[], some (.fieldTooLarge .headerKey (Utf8.encode header.name).length maxShort)⟩ := by
      rw [writeHeader, checkSize_of_lt large, Written.failed_append, Written.failed]
    rw [writeRecord_of_header few key value split earlier ends, List.append_nil]
  | @headerValue before after header value' few key value split earlier named valued large =>
    have ends : writeHeader header =
        ⟨header.nameBytes, some (.fieldTooLarge .headerValue value'.length maxLength)⟩ := by
      rw [writeHeader_of_name named, valued, writeNullable_of_large large, Written.failed,
        Written.ofBytes_append, List.append_nil]
    exact writeRecord_of_header few key value split earlier ends

theorem writeRecord_eq_fault_iff {record : Record} {bytes : Bytes} {error : WireError} :
    writeRecord record = ⟨bytes, some error⟩ ↔ record.Exceeds bytes error := by
  refine ⟨fun h => ?_, writeRecord_of_exceeds⟩
  -- What the record exceeds is found apart from the writing, which then settles that it is this error.
  rcases record.fits_or_exceeds with fits | ⟨found, fault, exceeds⟩
  · rw [writeRecord_of_fits fits] at h
    cases h
  · rw [writeRecord_of_exceeds exceeds] at h
    cases h
    exact exceeds

theorem fault?_writeRecord_eq_none_iff {record : Record} :
    (writeRecord record).fault? = none ↔ record.Fits := by
  rcases record.fits_or_exceeds with fits | ⟨bytes, error, exceeds⟩
  · rw [writeRecord_of_fits fits]
    exact iff_of_true rfl fits
  · refine iff_of_false (by simp [writeRecord_of_exceeds exceeds]) fun fits => ?_
    have both := (writeRecord_of_fits fits).symm.trans (writeRecord_of_exceeds exceeds)
    cases both

theorem RecordSet.ofRecords_of_exceeds {before after : List Record} {record : Record} {bytes : Bytes}
    {error : WireError} (earlier : ∀ other ∈ before, other.Fits)
    (exceeds : record.Exceeds bytes error) : ofRecords (before ++ record :: after) = .error error := by
  have written : writeAll writeRecord (before ++ record :: after) =
      ⟨before.flatMap Record.bytes ++ bytes, some error⟩ :=
    writeAll_of_fault (fun other member => writeRecord_of_fits (earlier other member))
      (writeRecord_of_exceeds exceeds)
  rw [ofRecords, written]
  rfl

theorem RecordSet.exists_ofRecords_iff (records : List Record) :
    (∃ set, ofRecords records = .ok set) ↔ ∀ record ∈ records, record.Fits := by
  constructor
  · rintro ⟨set, written⟩
    refine (forall_or_first Record.Fits records).resolve_right ?_
    rintro ⟨before, record, after, rfl, earlier, fails⟩
    obtain ⟨bytes, error, exceeds⟩ := record.fits_or_exceeds.resolve_left fails
    cases (ofRecords_of_exceeds earlier exceeds).symm.trans written
  · intro fits
    exact ⟨⟨records.flatMap Record.bytes⟩, ofRecords_eq_ok_iff.2
      (writeAll_of_each fun record member => writeRecord_of_fits (fits record member))⟩

/-- A list of records is refused for the first of them that cannot be written. -/
theorem RecordSet.ofRecords_eq_error_iff {records : List Record} {error : WireError} :
    ofRecords records = .error error ↔ ∃ before record after, records = before ++ record :: after ∧
      (∀ earlier ∈ before, earlier.Fits) ∧ (writeRecord record).fault? = some error := by
  constructor
  · intro h
    rcases forall_or_first Record.Fits records with
      fits | ⟨before, record, after, rfl, earlier, fails⟩
    · obtain ⟨set, written⟩ := (exists_ofRecords_iff records).2 fits
      cases h.symm.trans written
    · obtain ⟨bytes, fault, exceeds⟩ := record.fits_or_exceeds.resolve_left fails
      obtain rfl := Except.error.inj ((ofRecords_of_exceeds earlier exceeds).symm.trans h)
      exact ⟨before, record, after, rfl, earlier, by rw [writeRecord_of_exceeds exceeds]⟩
  · rintro ⟨before, record, after, rfl, earlier, ends⟩
    have exceeds : record.Exceeds (writeRecord record).bytes error := by
      rw [← writeRecord_eq_fault_iff, ← ends]
    exact ofRecords_of_exceeds earlier exceeds

/-- Whatever stands in the buffer, a record is added to it exactly if it is within its limits, always as the
same bytes, and otherwise the first length that is not within its limit is reported, with what comes
before it added.  A list of records is refused for the first that is. -/
theorem writing_ends_at_first_excess :
    (∀ record buffer, (Written.ofBytes buffer ++ writeRecord record).fault? = none ↔ record.Fits) ∧
    (∀ record, record.Fits → ∀ buffer,
      Written.ofBytes buffer ++ writeRecord record = .ofBytes (buffer ++ record.bytes)) ∧
    (∀ record : Record, record.bytes.length =
      18 + (record.key.getD []).length + (record.value.getD []).length +
        (record.headers.map fun header =>
          6 + (Utf8.encode header.name).length + (header.value.getD []).length).sum) ∧
    (∀ record buffer bytes error,
      Written.ofBytes buffer ++ writeRecord record = ⟨bytes, some error⟩ ↔
        ∃ before, record.Exceeds before error ∧ bytes = buffer ++ before) ∧
    ∀ records error, RecordSet.ofRecords records = .error error ↔
      ∃ before record after, records = before ++ record :: after ∧
        (∀ earlier ∈ before, earlier.Fits) ∧ (writeRecord record).fault? = some error := by
  refine ⟨fun record buffer => fault?_writeRecord_eq_none_iff, fun record fits buffer => ?_,
    fun record => record.length_bytes.trans record.encodedSize_eq,
    fun record buffer bytes error => ?_,
    fun records error => RecordSet.ofRecords_eq_error_iff⟩
  · rw [writeRecord_of_fits fits, Written.ofBytes_append_ofBytes]
  · constructor
    · intro h
      obtain ⟨hbytes, hfault⟩ := Written.mk.inj h
      refine ⟨(writeRecord record).bytes, ?_, hbytes.symm⟩
      rw [← writeRecord_eq_fault_iff, ← hfault]
    · rintro ⟨before, exceeds, rfl⟩
      rw [writeRecord_of_exceeds exceeds, Written.ofBytes_append]

/-- The second of three headers has a value that is too long by a byte, and the record comes after one that
has a null key, an empty value and a header without a value. -/
theorem writing_ends_at_first_excess_header_value :
    let small : Record := ⟨-1, none, some [], [⟨"é", none⟩]⟩
    let large : Record := ⟨3, some [7], none,
      [⟨"a", some []⟩, ⟨"b", some (List.replicate 2147483648 0)⟩, ⟨"c", none⟩]⟩
    let error : WireError := .fieldTooLarge .headerValue 2147483648 2147483647
    small.Fits ∧
      Written.ofBytes [9] ++ writeRecord small = .ofBytes [9, 255, 255, 255, 255, 255, 255, 255, 255,
        255, 255, 255, 255, 0, 0, 0, 0, 0, 1, 0, 2, 195, 169, 255, 255, 255, 255] ∧
      Written.ofBytes [9] ++ writeRecord large = ⟨[9, 0, 0, 0, 0, 0, 0, 0, 3, 0, 0, 0, 1, 7,
        255, 255, 255, 255, 0, 3, 0, 1, 97, 0, 0, 0, 0, 0, 1, 98], some error⟩ ∧
      RecordSet.ofRecords [small, large, small] = .error error := by
  -- The long value must not be spelled out, so only its length is kept.
  have size : (List.replicate 2147483648 (0 : UInt8)).length = 2147483648 := List.length_replicate
  generalize List.replicate 2147483648 (0 : UInt8) = long at size ⊢
  intro small large error
  have bare (other : Header) (member : other ∈ small.headers) : other.Fits := by
    obtain rfl := List.mem_singleton.1 member
    exact ⟨by decide, by simp [NullableFits]⟩
  have fits : small.Fits := ⟨by decide, by simp [NullableFits, small], by simp [NullableFits, small],
    bare⟩
  have first : (⟨"a", some []⟩ : Header).Fits := ⟨by decide, by simp [NullableFits]⟩
  have few : large.headers.length ≤ maxShort := by simp [large, maxShort]
  have named : (Utf8.encode "b").length ≤ maxShort := by decide
  have exceeds : large.Exceeds
      (large.headBytes ++ [(⟨"a", some []⟩ : Header)].flatMap Header.bytes ++
        (⟨"b", some long⟩ : Header).nameBytes) (.fieldTooLarge .headerValue long.length maxLength) :=
    .headerValue few (by simp [NullableFits, large, maxLength]) (by simp [NullableFits, large]) rfl
      (by simpa using first) named rfl (by simp [size, maxLength])
  have whole : small.bytes = [255, 255, 255, 255, 255, 255, 255, 255, 255, 255, 255, 255, 0, 0, 0, 0,
      0, 1, 0, 2, 195, 169, 255, 255, 255, 255] := by cbv
  have part : large.headBytes ++ [(⟨"a", some []⟩ : Header)].flatMap Header.bytes ++
      (⟨"b", some long⟩ : Header).nameBytes = [0, 0, 0, 0, 0, 0, 0, 3, 0, 0, 0, 1, 7,
        255, 255, 255, 255, 0, 3, 0, 1, 97, 0, 0, 0, 0, 0, 1, 98] := by cbv
  rw [size, part] at exceeds
  obtain ⟨-, added, -, stopped, refused⟩ := writing_ends_at_first_excess
  refine ⟨fits, ?_, (stopped large [9] _ _).2 ⟨_, exceeds, rfl⟩,
    (refused _ _).2 ⟨[small], large, [small], rfl, by simpa using fits, ?_⟩⟩
  · rw [added small fits, whole]
    rfl
  · rw [writeRecord_of_exceeds exceeds]
    rfl

end SchemaGate.Broker

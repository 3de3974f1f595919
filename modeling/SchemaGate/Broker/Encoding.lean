import SchemaGate.Broker.Record
import SchemaGate.Broker.Word

/-!
# Writing records

A record is written as its offset in eight bytes, its key and value, the number of its headers in two
bytes, and the headers.  Keys and values follow their length in four bytes, of which all bits set stand
for null; a header's name follows its length in two bytes.  A part that is too large ends the writing,
and what came before it stays.
-/

namespace SchemaGate.Broker

/-- What has been written, and what ended the writing too soon. -/
structure Written where
  bytes : Bytes
  fault? : Option WireError
deriving DecidableEq, Repr

namespace Written

def ofBytes (bytes : Bytes) : Written := ⟨bytes, none⟩

def failed (fault : WireError) : Written := ⟨[], some fault⟩

def nothing : Written := ofBytes []

def append (first second : Written) : Written :=
  match first.fault? with
  | some _ => first
  | none => ⟨first.bytes ++ second.bytes, second.fault?⟩

instance : Append Written := ⟨append⟩

def result (w : Written) : Except WireError Bytes :=
  match w.fault? with
  | some fault => .error fault
  | none => .ok w.bytes

@[simp] theorem ofBytes_inj {s t : Bytes} : ofBytes s = ofBytes t ↔ s = t := by
  simp [ofBytes]

@[simp] theorem failed_ne_ofBytes (fault : WireError) (s : Bytes) : failed fault ≠ ofBytes s := by
  simp [failed, ofBytes]

@[simp] theorem nothing_append (w : Written) : nothing ++ w = w := rfl

theorem ofBytes_append_ofBytes (s t : Bytes) : ofBytes s ++ ofBytes t = ofBytes (s ++ t) := rfl

@[simp] theorem failed_append (fault : WireError) (w : Written) : failed fault ++ w = failed fault :=
  rfl

theorem append_assoc (a b c : Written) : a ++ b ++ c = a ++ (b ++ c) := by
  obtain ⟨s, fault?⟩ := a
  cases fault? with
  | some fault => rfl
  | none =>
    obtain ⟨t, fault?⟩ := b
    cases fault? with
    | some fault => rfl
    | none => exact congrArg (Written.mk · c.fault?) (List.append_assoc s t c.bytes)

theorem append_eq_ofBytes_iff {first second : Written} {bytes : Bytes} :
    first ++ second = ofBytes bytes ↔
      ∃ s t, first = ofBytes s ∧ second = ofBytes t ∧ bytes = s ++ t := by
  constructor
  · intro h
    obtain ⟨s, fault?⟩ := first
    cases fault? with
    | some fault => simp [HAppend.hAppend, Append.append, append, ofBytes] at h
    | none =>
      obtain ⟨hbytes, hfault⟩ := Written.mk.inj h
      exact ⟨s, second.bytes, rfl, congrArg (Written.mk second.bytes) hfault, hbytes.symm⟩
  · rintro ⟨s, t, rfl, rfl, rfl⟩
    rfl

theorem ofBytes_append_eq_ofBytes_iff {s bytes : Bytes} {second : Written} :
    ofBytes s ++ second = ofBytes bytes ↔ ∃ t, second = ofBytes t ∧ bytes = s ++ t := by
  rw [append_eq_ofBytes_iff]
  constructor
  · rintro ⟨_, t, hs, ht, rfl⟩
    exact ⟨t, ht, by rw [ofBytes_inj.1 hs]⟩
  · rintro ⟨t, ht, rfl⟩
    exact ⟨s, t, rfl, ht, rfl⟩

theorem result_eq_ok_iff {w : Written} {bytes : Bytes} : w.result = .ok bytes ↔ w = ofBytes bytes := by
  obtain ⟨s, fault?⟩ := w
  cases fault? <;> simp [result, ofBytes]

end Written

def checkSize (field : Field) (size max : Nat) : Written :=
  if max < size then .failed (.fieldTooLarge field size max) else .nothing

theorem checkSize_append_eq_ofBytes_iff {field : Field} {size max : Nat} {w : Written}
    {bytes : Bytes} :
    checkSize field size max ++ w = .ofBytes bytes ↔ size ≤ max ∧ w = .ofBytes bytes := by
  unfold checkSize
  split
  · next h => simp [Nat.not_le.2 h]
  · next h => simp [Nat.not_lt.1 h]

def nullLength : Nat := 4294967295

def writeNullable (field : Field) : Option Bytes → Written
  | none => .ofBytes (wordBytes 4 nullLength)
  | some bytes =>
    checkSize field bytes.length maxLength ++
      .ofBytes (wordBytes 4 bytes.length ++ bytes)

theorem writeNullable_some_eq_ofBytes_iff {field : Field} {value bytes : Bytes} :
    writeNullable field (some value) = .ofBytes bytes ↔
      value.length ≤ maxLength ∧ bytes = wordBytes 4 value.length ++ value := by
  rw [writeNullable, checkSize_append_eq_ofBytes_iff, Written.ofBytes_inj, eq_comm (a := bytes)]

def writeHeader (header : Header) : Written :=
  let name := Utf8.encode header.name
  checkSize .headerKey name.length maxShort ++
    (.ofBytes (wordBytes 2 name.length ++ name) ++ writeNullable .headerValue header.value)

theorem writeHeader_eq_ofBytes_iff {header : Header} {bytes : Bytes} :
    writeHeader header = .ofBytes bytes ↔
      (Utf8.encode header.name).length ≤ maxShort ∧
        ∃ t, writeNullable .headerValue header.value = .ofBytes t ∧
          bytes = wordBytes 2 (Utf8.encode header.name).length ++ Utf8.encode header.name ++ t := by
  rw [writeHeader, checkSize_append_eq_ofBytes_iff, Written.ofBytes_append_eq_ofBytes_iff]

def writeAll {α : Type} (write : α → Written) (list : List α) : Written :=
  list.foldr (fun a written => write a ++ written) .nothing

theorem writeAll_append {α : Type} (write : α → Written) (a b : List α) :
    writeAll write (a ++ b) = writeAll write a ++ writeAll write b := by
  induction a with
  | nil => rfl
  | cons x a ih => exact (congrArg (write x ++ ·) ih).trans (Written.append_assoc _ _ _).symm

theorem writeAll_cons_eq_ofBytes_iff {α : Type} {write : α → Written} {a : α} {list : List α}
    {bytes : Bytes} :
    writeAll write (a :: list) = .ofBytes bytes ↔
      ∃ s t, write a = .ofBytes s ∧ writeAll write list = .ofBytes t ∧ bytes = s ++ t :=
  Written.append_eq_ofBytes_iff

def writeRecord (record : Record) : Written :=
  checkSize .headerCount record.headers.length maxShort ++
    (.ofBytes (wordBytes 8 record.offset.toUInt64.toNat) ++
      (writeNullable .recordKey record.key ++
        (writeNullable .recordValue record.value ++
          (.ofBytes (wordBytes 2 record.headers.length) ++ writeAll writeHeader record.headers))))

/-- What a record is written as: its parts in order, each within its limit. -/
theorem writeRecord_eq_ofBytes_iff {record : Record} {bytes : Bytes} :
    writeRecord record = .ofBytes bytes ↔
      record.headers.length ≤ maxShort ∧ ∃ key value headers,
        writeNullable .recordKey record.key = .ofBytes key ∧
        writeNullable .recordValue record.value = .ofBytes value ∧
        writeAll writeHeader record.headers = .ofBytes headers ∧
        bytes = wordBytes 8 record.offset.toUInt64.toNat ++
          (key ++ (value ++ (wordBytes 2 record.headers.length ++ headers))) := by
  rw [writeRecord, checkSize_append_eq_ofBytes_iff]
  refine and_congr_right fun _ => ?_
  constructor
  · intro h
    obtain ⟨_, h₁, rfl⟩ := Written.ofBytes_append_eq_ofBytes_iff.1 h
    obtain ⟨key, _, hkey, h₂, rfl⟩ := Written.append_eq_ofBytes_iff.1 h₁
    obtain ⟨value, _, hvalue, h₃, rfl⟩ := Written.append_eq_ofBytes_iff.1 h₂
    obtain ⟨headers, hheaders, rfl⟩ := Written.ofBytes_append_eq_ofBytes_iff.1 h₃
    exact ⟨key, value, headers, hkey, hvalue, hheaders, rfl⟩
  · rintro ⟨key, value, headers, hkey, hvalue, hheaders, rfl⟩
    rw [hkey, hvalue, hheaders]
    rfl

/-- The encoding of the records, one after the other. -/
def RecordSet.ofRecords (records : List Record) : Except WireError RecordSet := do
  let bytes ← (writeAll writeRecord records).result
  .ok ⟨bytes⟩

theorem RecordSet.ofRecords_eq_ok_iff {records : List Record} {set : RecordSet} :
    ofRecords records = .ok set ↔ writeAll writeRecord records = .ofBytes set.bytes := by
  obtain ⟨bytes⟩ := set
  rw [← Written.result_eq_ok_iff, ofRecords]
  cases (writeAll writeRecord records).result <;> simp [bind, Except.bind]

end SchemaGate.Broker

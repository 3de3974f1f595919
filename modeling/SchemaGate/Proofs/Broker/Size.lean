import Mathlib
import SchemaGate.Broker.Encoding

/-!
# The size of an encoding

How many bytes records take, part by part.  Main statements: what has been written is as long as its
records are, and the first records of a list are written as the first bytes of its encoding.
-/

namespace SchemaGate.Broker

def nullableSize (value : Option Bytes) : Nat :=
  4 + (value.getD []).length

def Header.encodedSize (header : Header) : Nat :=
  2 + (Utf8.encode header.name).length + nullableSize header.value

def Record.encodedSize (record : Record) : Nat :=
  8 + nullableSize record.key + nullableSize record.value + 2 +
    (record.headers.map Header.encodedSize).sum

theorem length_of_writeNullable {field : Field} {value : Option Bytes} {bytes : Bytes}
    (h : writeNullable field value = .ofBytes bytes) : bytes.length = nullableSize value := by
  cases value with
  | none =>
    obtain rfl := Written.ofBytes_inj.1 h
    rfl
  | some value =>
    obtain ⟨-, rfl⟩ := writeNullable_some_eq_ofBytes_iff.1 h
    simp [nullableSize]

theorem length_of_writeAll {α : Type} {write : α → Written} {size : α → Nat}
    (hsize : ∀ a bytes, write a = .ofBytes bytes → bytes.length = size a) {list : List α}
    {bytes : Bytes} (h : writeAll write list = .ofBytes bytes) :
    bytes.length = (list.map size).sum := by
  induction list generalizing bytes with
  | nil =>
    obtain rfl := Written.ofBytes_inj.1 h
    rfl
  | cons a list ih =>
    obtain ⟨s, t, hs, ht, rfl⟩ := writeAll_cons_eq_ofBytes_iff.1 h
    rw [List.length_append, hsize a s hs, ih ht, List.map_cons, List.sum_cons]

theorem length_of_writeHeader {header : Header} {bytes : Bytes}
    (h : writeHeader header = .ofBytes bytes) : bytes.length = header.encodedSize := by
  obtain ⟨-, t, ht, rfl⟩ := writeHeader_eq_ofBytes_iff.1 h
  simp only [List.length_append, length_wordBytes, length_of_writeNullable ht, Header.encodedSize]

theorem length_of_writeRecord {record : Record} {bytes : Bytes}
    (h : writeRecord record = .ofBytes bytes) : bytes.length = record.encodedSize := by
  obtain ⟨-, key, value, headers, hkey, hvalue, hheaders, rfl⟩ := writeRecord_eq_ofBytes_iff.1 h
  have hk := length_of_writeNullable hkey
  have hv := length_of_writeNullable hvalue
  have hh : headers.length = (record.headers.map Header.encodedSize).sum :=
    length_of_writeAll (fun _ _ => length_of_writeHeader) hheaders
  simp only [List.length_append, length_wordBytes, Record.encodedSize]
  omega

theorem length_of_writeRecords {records : List Record} {bytes : Bytes}
    (h : writeAll writeRecord records = .ofBytes bytes) :
    bytes.length = (records.map Record.encodedSize).sum :=
  length_of_writeAll (fun _ _ => length_of_writeRecord) h

theorem RecordSet.size_of_ofRecords {records : List Record} {set : RecordSet}
    (h : ofRecords records = .ok set) : set.size = (records.map Record.encodedSize).sum :=
  length_of_writeRecords (ofRecords_eq_ok_iff.1 h)

theorem writeAll_take {records : List Record} {bytes : Bytes}
    (h : writeAll writeRecord records = .ofBytes bytes) (k : Nat) :
    writeAll writeRecord (records.take k) =
      .ofBytes (bytes.take ((records.take k).map Record.encodedSize).sum) := by
  have joined : writeAll writeRecord (records.take k ++ records.drop k) = .ofBytes bytes := by
    rw [List.take_append_drop, h]
  rw [writeAll_append] at joined
  obtain ⟨s, t, hs, -, rfl⟩ := Written.append_eq_ofBytes_iff.1 joined
  rw [hs, ← length_of_writeRecords hs, List.take_left]

end SchemaGate.Broker

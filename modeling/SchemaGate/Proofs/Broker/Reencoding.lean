import SchemaGate.Broker.Message
import SchemaGate.Proofs.Broker.Limits
import SchemaGate.Proofs.Broker.RoundTrip

/-!
# Records written again

A message has a content where a record may have no value, so a record that becomes a message and a record
again has a value.  Main statement: what has been read can be written again after that, as many bytes; it
is the same but for the values that were null, so the bytes are the same only without such values.
-/

namespace SchemaGate.Broker

namespace Record

/-- The record with an empty value in place of none. -/
def filled (record : Record) : Record :=
  { record with value := some (record.value.getD []) }

theorem filled_eq_self_iff (record : Record) : record.filled = record ↔ record.value ≠ none := by
  obtain ⟨offset, key, value, headers⟩ := record
  cases value <;> simp [filled]

theorem encodedSize_filled (record : Record) : record.filled.encodedSize = record.encodedSize := by
  simp only [encodedSize_eq, filled, Option.getD_some]

theorem Fits.filled {record : Record} (fits : record.Fits) : record.filled.Fits where
  count := fits.count
  key := fits.key
  value := by
    rintro bytes ⟨⟩
    cases valued : record.value with
    | none => exact Nat.zero_le _
    | some value => exact fits.value value valued
  headers := fits.headers

end Record

theorem Message.toRecord_ofRecord (topic : String) (partition : Int32) (record : Record) :
    (Message.ofRecord topic partition record).toRecord = record.filled := rfl

namespace RecordSet

theorem fits_of_records {set : RecordSet} {records : List Record} (read : set.records = .ok records) :
    ∀ record ∈ records, record.Fits :=
  (exists_ofRecords_iff records).1 ⟨set, records_eq_ok_iff.1 read⟩

/-- Records that went out as messages can be written again, as many bytes; they are read back as they were
but for a value in place of each null, and the bytes are the same exactly if there was none. -/
theorem reencoded_fills_values {bytes : Bytes} {records : List Record}
    (read : RecordSet.records ⟨bytes⟩ = .ok records) (topic : String) (partition : Int32) :
    ∃ again, ofRecords (records.map fun record =>
        (Message.ofRecord topic partition record).toRecord) = .ok again ∧
      again.size = bytes.length ∧
      again.records = .ok (records.map fun record =>
        { record with value := some (record.value.getD []) }) ∧
      (again.bytes = bytes ↔ ∀ record ∈ records, record.value ≠ none) := by
  simp only [Message.toRecord_ofRecord]
  have fits : ∀ record ∈ records.map Record.filled, record.Fits := by
    intro record member
    obtain ⟨source, hsource, rfl⟩ := List.mem_map.1 member
    exact (fits_of_records read source hsource).filled
  obtain ⟨again, written⟩ := (exists_ofRecords_iff _).2 fits
  have reread : again.records = .ok (records.map Record.filled) := records_eq_ok_iff.2 written
  refine ⟨again, written, ?_, reread, ?_⟩
  · have size : RecordSet.size ⟨bytes⟩ = (records.map Record.encodedSize).sum :=
      size_of_ofRecords (records_eq_ok_iff.1 read)
    rw [size_of_ofRecords written, List.map_map]
    refine Eq.trans ?_ size.symm
    exact congrArg List.sum (List.map_congr_left fun record _ => record.encodedSize_filled)
  · -- Both sets are read, so they are the same exactly if their records are.
    have same : again.bytes = bytes ↔ records.map Record.filled = records := by
      constructor
      · rintro rfl
        exact Except.ok.inj (reread.symm.trans read)
      · intro unchanged
        rw [unchanged] at written
        exact congrArg RecordSet.bytes (Except.ok.inj (written.symm.trans (records_eq_ok_iff.1 read)))
    have each : records.map Record.filled = records.map id ↔
        ∀ record ∈ records, record.filled = record := List.map_inj_left
    rw [List.map_id] at each
    simp only [same, each, Record.filled_eq_self_iff]

/-- The first of two records has neither a key nor a value, and a header without a value; only its own value
becomes an empty one. -/
theorem reencoded_fills_values_tombstone :
    let bytes : Bytes := [0, 0, 0, 0, 0, 0, 0, 7, 255, 255, 255, 255, 255, 255, 255, 255, 0, 1,
      0, 1, 97, 255, 255, 255, 255,
      0, 0, 0, 0, 0, 0, 0, 8, 0, 0, 0, 0, 0, 0, 0, 1, 5, 0, 0]
    let records : List Record := [⟨7, none, none, [⟨"a", none⟩]⟩, ⟨8, some [], some [5], []⟩]
    RecordSet.records ⟨bytes⟩ = .ok records ∧
      ∃ again, ofRecords (records.map fun record =>
          (Message.ofRecord "orders" (-1) record).toRecord) = .ok again ∧
        again.size = 44 ∧
        again.records = .ok [⟨7, none, some [], [⟨"a", none⟩]⟩, ⟨8, some [], some [5], []⟩] ∧
        again.bytes ≠ bytes := by
  intro bytes records
  have read : RecordSet.records ⟨bytes⟩ = .ok records := by cbv
  obtain ⟨again, written, size, reread, same⟩ := reencoded_fills_values read "orders" (-1)
  refine ⟨read, again, written, size, reread, fun unchanged => ?_⟩
  exact same.1 unchanged _ List.mem_cons_self rfl

end RecordSet

end SchemaGate.Broker

import SchemaGate.Proofs.Broker.Reencoding
import SchemaGate.Proofs.Gate.Subscribe

/-!
# Marked records

A record that is refused can be delivered all the same, with one header more.  Main statement: that header
is the one that is found under its name, whatever other headers the record has; and the marked record can be
written again unless there are too many headers then, or the name or the text is too long.
-/

namespace SchemaGate

namespace Broker

namespace Record

/-- The record with one header more, after all others. -/
def marked (record : Record) (name : String) (value : Bytes) : Record :=
  { record with headers := record.headers ++ [⟨name, some value⟩] }

theorem Fits.marked_iff {record : Record} (fits : record.Fits) (name : String) (value : Bytes) :
    (record.marked name value).Fits ↔ record.headers.length < maxShort ∧
      (Utf8.encode name).length ≤ maxShort ∧ value.length ≤ maxLength := by
  have count : (record.marked name value).headers.length = record.headers.length + 1 :=
    List.length_append
  constructor
  · intro whole
    have last : (⟨name, some value⟩ : Header).Fits :=
      whole.headers _ (List.mem_append_right _ List.mem_cons_self)
    exact ⟨count.symm.trans_le whole.count, last.name, last.value value rfl⟩
  · rintro ⟨few, named, short⟩
    have last : (⟨name, some value⟩ : Header).Fits := ⟨named, by rintro bytes ⟨⟩; exact short⟩
    exact
      { count := count.trans_le few
        key := fits.key
        value := fits.value
        headers := List.forall_mem_append.2 ⟨fits.headers, List.forall_mem_singleton.2 last⟩ }

end Record

namespace Message

variable (m : Message) {name other : String} (value : Bytes)

theorem toRecord_putHeader : (m.putHeader name value).toRecord = m.toRecord.marked name value := rfl

theorem header?_putHeader : (m.putHeader name value).header? name = some value := by
  simp [header?, putHeader]

theorem header?_putHeader_of_ne (h : other ≠ name) :
    (m.putHeader name value).header? other = m.header? other := by
  simp [header?, putHeader, h.symm]

end Message

end Broker

open Broker

/-- The header of a marked record is found, and no other changes.  A record that was read can be written
with it again, and is read back with it, if it had a place for one more header and both the name and the
text are short enough. -/
theorem marked_record_written_iff {set : RecordSet} {records : List Record} {record : Record}
    (read : set.records = .ok records) (member : record ∈ records)
    {handling : SubscribeHandling} {handler : SubscribeHandler}
    (marks : handling.strategy = .addRecordHeader)
    (made : SubscribeHandler.ofHandling handling = .ok handler) (response : FetchResponse)
    (topic : String) (partition : Int32) (detail : String) :
    ∃ name marked, handling.headerName? = some name ∧
      handler.react response (Message.ofRecord topic partition record) detail = .deliver marked ∧
      marked.header? (trim name) = some (Utf8.encode detail) ∧
      (∀ other, other ≠ trim name →
        marked.header? other = (Message.ofRecord topic partition record).header? other) ∧
      ((∃ written, RecordSet.ofRecords [marked.toRecord] = .ok written) ↔
        record.headers.length ≤ 65534 ∧ (Utf8.encode (trim name)).length ≤ 65535 ∧
          (Utf8.encode detail).length ≤ 2147483647) ∧
      ∀ written, RecordSet.ofRecords [marked.toRecord] = .ok written →
        written.records = .ok [{ record with
          value := some (record.value.getD [])
          headers := record.headers ++ [⟨trim name, some (Utf8.encode detail)⟩] }] := by
  obtain ⟨name, configured, -, rfl⟩ := exists_headerName_of_ofHandling marks made
  let m := Message.ofRecord topic partition record
  refine ⟨name, m.putHeader (trim name) (Utf8.encode detail), configured, rfl,
    m.header?_putHeader _, fun other h => m.header?_putHeader_of_ne _ h, ?_,
    fun written h => RecordSet.records_eq_ok_iff.2 h⟩
  have fits := (RecordSet.fits_of_records read record member).filled
  rw [RecordSet.exists_ofRecords_iff, List.forall_mem_singleton, Message.toRecord_putHeader,
    Message.toRecord_ofRecord, fits.marked_iff]
  exact and_congr_left fun _ => Nat.lt_succ_iff

/-- The record has the header already, twice and once without a value, and has no value itself. -/
theorem marked_record_written_iff_repeated_header :
    let bytes : Bytes := [0, 0, 0, 0, 0, 0, 0, 3, 0, 0, 0, 0, 255, 255, 255, 255, 0, 3,
      0, 1, 120, 0, 0, 0, 1, 9, 0, 1, 97, 0, 0, 0, 0, 0, 1, 120, 255, 255, 255, 255]
    let headers : List Header := [⟨"x", some [9]⟩, ⟨"a", some []⟩, ⟨"x", none⟩]
    let record : Record := ⟨3, some [], none, headers⟩
    let handling : SubscribeHandling := ⟨.addRecordHeader, some " x\t"⟩
    RecordSet.records ⟨bytes⟩ = .ok [record] ∧
      SubscribeHandler.ofHandling handling = .ok (.addRecordHeader "x") ∧
      ∃ marked, SubscribeHandler.react (.addRecordHeader "x") { topics := [] }
          (Message.ofRecord "orders" 1 record) "bad" = .deliver marked ∧
        marked.header? "x" = some [98, 97, 100] ∧ marked.header? "a" = some [] ∧
        ∃ written, RecordSet.ofRecords [marked.toRecord] = .ok written ∧
          written.records = .ok [⟨3, some [], some [], headers ++ [⟨"x", some [98, 97, 100]⟩]⟩] := by
  intro bytes headers record handling
  have read : RecordSet.records ⟨bytes⟩ = .ok [record] :=
    RecordSet.records_eq_ok_iff.2 (by cbv)
  have made : SubscribeHandler.ofHandling handling = .ok (.addRecordHeader "x") := by decide
  obtain ⟨name, marked, configured, delivered, found, others, written, reread⟩ :=
    marked_record_written_iff read List.mem_cons_self rfl made { topics := [] } "orders" 1 "bad"
  obtain rfl := Option.some.inj configured
  have trimmed : trim " x\t" = "x" := by decide
  have text : Utf8.encode "bad" = [98, 97, 100] := by cbv
  rw [trimmed, text] at found written reread
  rw [trimmed] at others
  obtain ⟨set, again⟩ := written.2 (by decide)
  have kept := others "a" (by decide)
  exact ⟨read, made, marked, delivered, found, kept, set, again, reread set again⟩

end SchemaGate

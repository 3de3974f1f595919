import Mathlib
import SchemaGate.Broker.Decoding
import SchemaGate.Broker.Encoding

/-!
# Reading inverts writing

Each reader is matched with the writer of the same part: it succeeds exactly on what the writer
writes, and leaves what follows.  Main statements: record sets are read back as they were written, and
a set that can be read is the only encoding of its records.
-/

namespace SchemaGate.Broker

/-- The reader takes from the front exactly what the writer writes. -/
def Decoder.Reads {α : Type} (d : Decoder α) (write : α → Written) : Prop :=
  ∀ s a rest, d.run s = (.ok a, rest) ↔ ∃ bytes, write a = .ofBytes bytes ∧ s = bytes ++ rest

theorem run_readWord_eq_ok_iff {width n : Nat} {s rest : Bytes} :
    (readWord width).run s = (.ok n, rest) ↔
      n < wordRange width ∧ s = wordBytes width n ++ rest := by
  rw [readWord, Decoder.run_bind_eq_ok_iff]
  constructor
  · rintro ⟨bytes, mid, hbytes, hn⟩
    obtain ⟨rfl, rfl⟩ := run_takeBytes_eq_ok_iff.1 hbytes
    obtain ⟨rfl, rfl⟩ := Decoder.run_pure_eq_ok_iff.1 hn
    exact ⟨wordValue_lt bytes, by rw [wordBytes_wordValue]⟩
  · rintro ⟨hn, rfl⟩
    refine ⟨wordBytes width n, rest, run_takeBytes_eq_ok_iff.2 ⟨length_wordBytes width n, rfl⟩, ?_⟩
    rw [wordValue_wordBytes, Nat.mod_eq_of_lt hn, Decoder.run_pure]

theorem run_readWord_append {width n : Nat} (h : n < wordRange width) (rest : Bytes) :
    (readWord width).run (wordBytes width n ++ rest) = (.ok n, rest) :=
  run_readWord_eq_ok_iff.2 ⟨h, rfl⟩

theorem toNat_offset {n : Nat} (h : n < wordRange 8) :
    (UInt64.ofNat n).toInt64.toUInt64.toNat = n := by
  rw [UInt64.toUInt64_toInt64]
  exact UInt64.toNat_ofNat_of_lt' h

theorem offset_lt (offset : Int64) : offset.toUInt64.toNat < wordRange 8 :=
  offset.toUInt64.toNat_lt

theorem reads_readNullable (field : Field) :
    (readNullable field).Reads (writeNullable field) := by
  intro s value rest
  rw [readNullable, Decoder.run_bind_eq_ok_iff]
  constructor
  · rintro ⟨length, mid, hlength, hvalue⟩
    obtain ⟨-, rfl⟩ := run_readWord_eq_ok_iff.1 hlength
    split at hvalue
    · next null =>
      subst null
      obtain ⟨rfl, rfl⟩ := Decoder.run_pure_eq_ok_iff.1 hvalue
      exact ⟨_, rfl, rfl⟩
    · split at hvalue
      · -- Any other negative length is refused.
        simp at hvalue
      · next short =>
        obtain ⟨bytes, after, hbytes, hdone⟩ := Decoder.run_bind_eq_ok_iff.1 hvalue
        obtain ⟨rfl, rfl⟩ := run_takeBytes_eq_ok_iff.1 hbytes
        obtain ⟨rfl, rfl⟩ := Decoder.run_pure_eq_ok_iff.1 hdone
        refine ⟨_, writeNullable_some_eq_ofBytes_iff.2 ⟨Nat.not_lt.1 short, rfl⟩, ?_⟩
        rw [List.append_assoc]
  · rintro ⟨bytes, hbytes, rfl⟩
    cases value with
    | none =>
      obtain rfl := Written.ofBytes_inj.1 hbytes
      exact ⟨nullLength, rest, run_readWord_append (by decide) rest, rfl⟩
    | some value =>
      obtain ⟨short, rfl⟩ := writeNullable_some_eq_ofBytes_iff.1 hbytes
      have small : value.length < 4294967295 := Nat.lt_of_le_of_lt short (by decide)
      refine ⟨value.length, value ++ rest, ?_, ?_⟩
      · rw [List.append_assoc]
        exact run_readWord_append (Nat.lt_succ_of_lt small) _
      · rw [if_neg (Nat.ne_of_lt small), if_neg (Nat.not_lt.2 short)]
        exact Decoder.run_bind_of_ok (run_takeBytes_eq_ok_iff.2 ⟨rfl, rfl⟩)

theorem reads_readHeader : readHeader.Reads writeHeader := by
  intro s header rest
  rw [readHeader, Decoder.run_bind_eq_ok_iff]
  constructor
  · rintro ⟨length, mid, hlength, hrest⟩
    obtain ⟨hshort, rfl⟩ := run_readWord_eq_ok_iff.1 hlength
    obtain ⟨bytes, after, hbytes, hname⟩ := Decoder.run_bind_eq_ok_iff.1 hrest
    obtain ⟨rfl, rfl⟩ := run_takeBytes_eq_ok_iff.1 hbytes
    split at hname
    · simp at hname
    · next name spelled =>
      obtain ⟨value, last, hvalue, hdone⟩ := Decoder.run_bind_eq_ok_iff.1 hname
      obtain ⟨t, ht, rfl⟩ := (reads_readNullable _ _ _ _).1 hvalue
      obtain ⟨rfl, rfl⟩ := Decoder.run_pure_eq_ok_iff.1 hdone
      obtain rfl := Utf8.encode_of_decode? spelled
      refine ⟨_, writeHeader_eq_ofBytes_iff.2 ⟨Nat.le_of_lt_succ hshort, t, ht, rfl⟩, ?_⟩
      simp only [List.append_assoc]
  · rintro ⟨bytes, hbytes, rfl⟩
    obtain ⟨short, t, ht, rfl⟩ := writeHeader_eq_ofBytes_iff.1 hbytes
    simp only [List.append_assoc]
    refine ⟨_, _, run_readWord_append (Nat.lt_succ_of_le short) _, ?_⟩
    rw [Decoder.run_bind_of_ok (run_takeBytes_eq_ok_iff.2 ⟨rfl, rfl⟩), Utf8.decode?_encode]
    exact Decoder.run_bind_of_ok ((reads_readNullable _ _ _ _).2 ⟨t, ht, rfl⟩)

theorem run_readHeaders_eq_ok_iff {count : Nat} {headers : List Header} {s rest : Bytes} :
    (readHeaders count).run s = (.ok headers, rest) ↔
      headers.length = count ∧
        ∃ bytes, writeAll writeHeader headers = .ofBytes bytes ∧ s = bytes ++ rest := by
  induction count generalizing headers s rest with
  | zero =>
    constructor
    · intro h
      rw [readHeaders, Decoder.run_pure_eq_ok_iff] at h
      obtain ⟨rfl, rfl⟩ := h
      exact ⟨rfl, [], rfl, rfl⟩
    · rintro ⟨none, bytes, hbytes, rfl⟩
      obtain rfl := List.length_eq_zero_iff.1 none
      obtain rfl := Written.ofBytes_inj.1 hbytes
      rfl
  | succ count ih =>
    rw [readHeaders, Decoder.run_bind_eq_ok_iff]
    constructor
    · rintro ⟨header, mid, hheader, hrest⟩
      obtain ⟨others, after, hothers, hdone⟩ := Decoder.run_bind_eq_ok_iff.1 hrest
      obtain ⟨first, hfirst, rfl⟩ := (reads_readHeader _ _ _).1 hheader
      obtain ⟨rfl, tail, htail, rfl⟩ := ih.1 hothers
      obtain ⟨rfl, rfl⟩ := Decoder.run_pure_eq_ok_iff.1 hdone
      refine ⟨rfl, first ++ tail, ?_, (List.append_assoc ..).symm⟩
      exact writeAll_cons_eq_ofBytes_iff.2 ⟨first, tail, hfirst, htail, rfl⟩
    · rintro ⟨counted, bytes, hbytes, rfl⟩
      cases headers with
      | nil => simp at counted
      | cons header others =>
        obtain ⟨first, tail, hfirst, htail, rfl⟩ := writeAll_cons_eq_ofBytes_iff.1 hbytes
        refine ⟨header, tail ++ rest, (reads_readHeader _ _ _).2 ⟨first, hfirst, ?_⟩, ?_⟩
        · rw [List.append_assoc]
        · have hothers : (readHeaders count).run (tail ++ rest) = (.ok others, rest) :=
            ih.2 ⟨Nat.succ.inj counted, tail, htail, rfl⟩
          rw [Decoder.run_bind_of_ok hothers, Decoder.run_pure]

theorem reads_readRecord : readRecord.Reads writeRecord := by
  intro s record rest
  rw [readRecord, Decoder.run_bind_eq_ok_iff]
  constructor
  · rintro ⟨offset, _, hoffset, h₁⟩
    obtain ⟨key, _, hkey, h₂⟩ := Decoder.run_bind_eq_ok_iff.1 h₁
    obtain ⟨value, _, hvalue, h₃⟩ := Decoder.run_bind_eq_ok_iff.1 h₂
    obtain ⟨count, _, hcount, h₄⟩ := Decoder.run_bind_eq_ok_iff.1 h₃
    obtain ⟨headers, _, hheaders, h₅⟩ := Decoder.run_bind_eq_ok_iff.1 h₄
    obtain ⟨small, rfl⟩ := run_readWord_eq_ok_iff.1 hoffset
    obtain ⟨keyBytes, hk, rfl⟩ := (reads_readNullable _ _ _ _).1 hkey
    obtain ⟨valueBytes, hv, rfl⟩ := (reads_readNullable _ _ _ _).1 hvalue
    obtain ⟨few, rfl⟩ := run_readWord_eq_ok_iff.1 hcount
    obtain ⟨rfl, headerBytes, hh, rfl⟩ := run_readHeaders_eq_ok_iff.1 hheaders
    obtain ⟨rfl, rfl⟩ := Decoder.run_pure_eq_ok_iff.1 h₅
    refine ⟨_, writeRecord_eq_ofBytes_iff.2
      ⟨Nat.le_of_lt_succ few, keyBytes, valueBytes, headerBytes, hk, hv, hh, rfl⟩, ?_⟩
    simp only [List.append_assoc, toNat_offset small]
  · rintro ⟨bytes, hbytes, rfl⟩
    obtain ⟨few, key, value, headers, hkey, hvalue, hheaders, rfl⟩ :=
      writeRecord_eq_ofBytes_iff.1 hbytes
    simp only [List.append_assoc]
    refine ⟨_, _, run_readWord_append (offset_lt record.offset) _, ?_⟩
    rw [Decoder.run_bind_of_ok ((reads_readNullable _ _ _ _).2 ⟨key, hkey, rfl⟩),
      Decoder.run_bind_of_ok ((reads_readNullable _ _ _ _).2 ⟨value, hvalue, rfl⟩),
      Decoder.run_bind_of_ok (run_readWord_append (Nat.lt_succ_of_le few) _),
      Decoder.run_bind_of_ok (run_readHeaders_eq_ok_iff.2 ⟨rfl, headers, hheaders, rfl⟩),
      Decoder.run_pure, UInt64.ofNat_toNat, Int64.toInt64_toUInt64]

theorem readRecords_of_run {s rest : Bytes} {record : Record}
    (h : readRecord.run s = (.ok record, rest)) :
    readRecords s = (readRecords rest).map (record :: ·) := by
  cases s with
  | nil => simpa using takes_readRecord [] record rest h
  | cons b s =>
    rw [readRecords]
    split
    · next _ _ hrun => simp [h] at hrun
    · next _ _ hrun =>
      obtain ⟨hrecord, rfl⟩ := Prod.mk.inj (h.symm.trans hrun)
      obtain rfl := Except.ok.inj hrecord
      cases readRecords rest <;> rfl

theorem readRecords_of_fault {s rest : Bytes} {error : WireError} (hs : s ≠ [])
    (h : readRecord.run s = (.error error, rest)) : readRecords s = .error error := by
  cases s with
  | nil => exact absurd rfl hs
  | cons b s =>
    rw [readRecords]
    split
    · next _ _ hrun => exact congrArg _ (Except.error.inj (Prod.mk.inj (hrun.symm.trans h)).1)
    · next _ _ hrun => simp [h] at hrun

theorem readRecords_eq_ok_iff {s : Bytes} {records : List Record} :
    readRecords s = .ok records ↔ writeAll writeRecord records = .ofBytes s := by
  -- One direction follows the reader from record to record, the other the list of records.
  constructor
  · intro h
    fun_induction readRecords s generalizing records with
    | case1 =>
      obtain rfl := Except.ok.inj h
      rfl
    | case2 b s error rest hrun => simp at h
    | case3 b s record rest hrun ih =>
      cases hrest : readRecords rest with
      | error error => simp [hrest, bind, Except.bind] at h
      | ok others =>
        obtain rfl : record :: others = records := by simpa [hrest, bind, Except.bind] using h
        obtain ⟨first, hfirst, hs⟩ := (reads_readRecord _ _ _).1 hrun
        exact writeAll_cons_eq_ofBytes_iff.2 ⟨first, rest, hfirst, ih hrest, hs⟩
  · intro h
    induction records generalizing s with
    | nil =>
      obtain rfl := Written.ofBytes_inj.1 h
      rw [readRecords]
    | cons record records ih =>
      obtain ⟨first, tail, hfirst, htail, rfl⟩ := writeAll_cons_eq_ofBytes_iff.1 h
      rw [readRecords_of_run ((reads_readRecord _ _ _).2 ⟨first, hfirst, rfl⟩), ih htail]
      rfl

namespace RecordSet

theorem records_eq_ok_iff {set : RecordSet} {records : List Record} :
    set.records = .ok records ↔ ofRecords records = .ok set :=
  readRecords_eq_ok_iff.trans ofRecords_eq_ok_iff.symm

theorem ofRecords_append {a b : List Record} {setA setB : RecordSet}
    (ha : ofRecords a = .ok setA) (hb : ofRecords b = .ok setB) :
    ofRecords (a ++ b) = .ok ⟨setA.bytes ++ setB.bytes⟩ := by
  rw [ofRecords_eq_ok_iff] at ha hb ⊢
  rw [writeAll_append, ha, hb, Written.ofBytes_append_ofBytes]

/-- A set that has been written is read back as its records, and joining lists of records joins their
encodings. -/
theorem round_trip_and_concat :
    (∀ records set, ofRecords records = .ok set → set.records = .ok records) ∧
      ∀ a b setA setB, ofRecords a = .ok setA → ofRecords b = .ok setB →
        ofRecords (a ++ b) = .ok ⟨setA.bytes ++ setB.bytes⟩ :=
  ⟨fun _ _ h => records_eq_ok_iff.2 h, fun _ _ _ _ ha hb => ofRecords_append ha hb⟩

/-- A record with an empty key, no value and a header that occurs twice, and one with no key after it. -/
theorem round_trip_and_concat_two_records :
    let a : Record := ⟨-2, some [], none, [⟨"é", some [7]⟩, ⟨"é", none⟩]⟩
    let b : Record := ⟨3, none, some [], []⟩
    let setA : RecordSet := ⟨[255, 255, 255, 255, 255, 255, 255, 254, 0, 0, 0, 0, 255, 255, 255, 255,
      0, 2, 0, 2, 195, 169, 0, 0, 0, 1, 7, 0, 2, 195, 169, 255, 255, 255, 255]⟩
    let setB : RecordSet := ⟨[0, 0, 0, 0, 0, 0, 0, 3, 255, 255, 255, 255, 0, 0, 0, 0, 0, 0]⟩
    ofRecords [a] = .ok setA ∧ ofRecords [b] = .ok setB ∧ setA.records = .ok [a] ∧
      ofRecords [a, b] = .ok ⟨setA.bytes ++ setB.bytes⟩ := by
  intro a b setA setB
  have ha : ofRecords [a] = .ok setA := by cbv
  have hb : ofRecords [b] = .ok setB := by cbv
  exact ⟨ha, hb, round_trip_and_concat.1 [a] setA ha, round_trip_and_concat.2 [a] [b] setA setB ha hb⟩

/-- A set that can be read is what its records are written as, so no other set holds them. -/
theorem ofRecords_of_records {set : RecordSet} {records : List Record}
    (h : set.records = .ok records) :
    ofRecords records = .ok set ∧ ∀ other : RecordSet, other.records = .ok records → other = set := by
  have written := records_eq_ok_iff.1 h
  refine ⟨written, fun other hother => ?_⟩
  have same := (records_eq_ok_iff.1 hother).symm.trans written
  exact Except.ok.inj same

theorem ofRecords_of_records_tombstone :
    let set : RecordSet := ⟨[0, 0, 0, 0, 0, 0, 0, 3, 255, 255, 255, 255, 255, 255, 255, 255, 0, 0]⟩
    set.records = .ok [⟨3, none, none, []⟩] ∧ ofRecords [⟨3, none, none, []⟩] = .ok set ∧
      ∀ other : RecordSet, other.records = .ok [⟨3, none, none, []⟩] → other = set := by
  intro set
  have read : set.records = .ok [⟨3, none, none, []⟩] := by
    cbv
  exact ⟨read, ofRecords_of_records read⟩

end RecordSet

end SchemaGate.Broker

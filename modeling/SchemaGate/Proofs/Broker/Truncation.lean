import SchemaGate.Proofs.Broker.RoundTrip
import SchemaGate.Proofs.Broker.Size

/-!
# Readers on more and on fewer bytes

What a reader makes of some bytes settles what it makes of them and more, unless it ran short.  Main
statements: an encoding that is cut off is read up to the cut if a record ends there, and reported as
truncated if none does; and what has been made of a record or of a set stands when more bytes follow.
-/

namespace SchemaGate.Broker

/-- A result stands when more bytes follow, and what is missing is missed until there is enough. -/
structure Decoder.Stable {α : Type} (d : Decoder α) : Prop where
  ok {s : Bytes} {a : α} {rest : Bytes} (h : d.run s = (.ok a, rest)) (more : Bytes) :
    d.run (s ++ more) = (.ok a, rest ++ more)
  refused {s : Bytes} {error : WireError} {rest : Bytes} (h : d.run s = (.error error, rest))
    (complete : ∀ needed available, error ≠ .truncated needed available) (more : Bytes) :
    d.run (s ++ more) = (.error error, rest ++ more)
  truncated {s : Bytes} {needed available : Nat} {rest : Bytes}
    (h : d.run s = (.error (.truncated needed available), rest)) :
    available = rest.length ∧ available < needed ∧
      ∀ more : Bytes, available + more.length < needed →
        d.run (s ++ more) = (.error (.truncated needed (available + more.length)), rest ++ more)

namespace Decoder

variable {α β : Type}

theorem stable_pure (a : α) : Stable (pure a : Decoder α) where
  ok h more := by
    obtain ⟨rfl, rfl⟩ := run_pure_eq_ok_iff.1 h
    rfl
  refused h := by simp at h
  truncated h := by simp at h

theorem stable_fail {error : WireError}
    (complete : ∀ needed available, error ≠ .truncated needed available) :
    Stable (fail error : Decoder α) where
  ok h := by simp at h
  refused h _ more := by
    obtain ⟨herror, rfl⟩ := Prod.mk.inj h
    obtain rfl := Except.error.inj herror
    rfl
  truncated h := by
    obtain ⟨herror, -⟩ := Prod.mk.inj h
    exact absurd (Except.error.inj herror) (complete _ _)

theorem Stable.bind {d : Decoder α} {next : α → Decoder β} (hd : Stable d)
    (hn : ∀ a, Stable (next a)) : Stable (d >>= next) where
  ok h more := by
    obtain ⟨a, mid, ha, hb⟩ := run_bind_eq_ok_iff.1 h
    rw [run_bind_of_ok (hd.ok ha more)]
    exact (hn a).ok hb more
  refused h complete more := by
    rcases run_bind_eq_error_iff.1 h with first | ⟨a, mid, ha, second⟩
    · exact run_bind_of_error (hd.refused first complete more)
    · rw [run_bind_of_ok (hd.ok ha more)]
      exact (hn a).refused second complete more
  truncated h := by
    rcases run_bind_eq_error_iff.1 h with first | ⟨a, mid, ha, second⟩
    · obtain ⟨left, less, short⟩ := hd.truncated first
      exact ⟨left, less, fun more hmore => run_bind_of_error (short more hmore)⟩
    · obtain ⟨left, less, short⟩ := (hn a).truncated second
      refine ⟨left, less, fun more hmore => ?_⟩
      rw [run_bind_of_ok (hd.ok ha more)]
      exact short more hmore

theorem Stable.truncated_of_append {d : Decoder α} (hd : Stable d) {s more : Bytes} {a : α}
    (h : d.run (s ++ more) = (.ok a, [])) (hmore : more ≠ []) :
    ∃ needed available rest, available < needed ∧
      d.run s = (.error (.truncated needed available), rest) := by
  rcases hs : d.run s with ⟨error | b, rest⟩
  · cases error
    case truncated needed available =>
      exact ⟨needed, available, rest, (hd.truncated hs).2.1, rfl⟩
    -- Any other error would stand on all of the bytes, where there is none.
    all_goals
      have stands := hd.refused hs (by simp) more
      simp [h] at stands
  · have stands := hd.ok hs more
    rw [h, Prod.mk.injEq] at stands
    exact absurd (List.append_eq_nil_iff.1 stands.2.symm).2 hmore

end Decoder

theorem stable_takeBytes (n : Nat) : (takeBytes n).Stable where
  ok h more := by
    obtain ⟨hn, rfl⟩ := run_takeBytes_eq_ok_iff.1 h
    exact run_takeBytes_eq_ok_iff.2 ⟨hn, List.append_assoc ..⟩
  refused h complete := by
    obtain ⟨-, rfl, -⟩ := run_takeBytes_eq_error_iff.1 h
    exact absurd rfl (complete _ _)
  truncated h := by
    obtain ⟨short, herror, rfl⟩ := run_takeBytes_eq_error_iff.1 h
    obtain ⟨rfl, rfl⟩ := WireError.truncated.inj herror
    refine ⟨rfl, short, fun more hmore => ?_⟩
    rw [← List.length_append] at hmore ⊢
    exact run_takeBytes_eq_error_iff.2 ⟨hmore, rfl, rfl⟩

theorem stable_readWord (width : Nat) : (readWord width).Stable :=
  (stable_takeBytes width).bind fun _ => Decoder.stable_pure _

theorem stable_readNullable (field : Field) : (readNullable field).Stable := by
  refine (stable_readWord 4).bind fun length => ?_
  split
  · exact Decoder.stable_pure _
  · split
    · exact Decoder.stable_fail (by simp)
    · exact (stable_takeBytes length).bind fun _ => Decoder.stable_pure _

theorem stable_readHeader : readHeader.Stable := by
  refine (stable_readWord 2).bind fun length => (stable_takeBytes length).bind fun bytes => ?_
  split
  · exact Decoder.stable_fail (by simp)
  · exact (stable_readNullable _).bind fun _ => Decoder.stable_pure _

theorem stable_readHeaders (count : Nat) : (readHeaders count).Stable := by
  induction count with
  | zero => exact Decoder.stable_pure _
  | succ count ih =>
    exact stable_readHeader.bind fun _ => ih.bind fun _ => Decoder.stable_pure _

theorem stable_readRecord : readRecord.Stable :=
  (stable_readWord 8).bind fun _ => (stable_readNullable _).bind fun _ =>
    (stable_readNullable _).bind fun _ => (stable_readWord 2).bind fun count =>
      (stable_readHeaders count).bind fun _ => Decoder.stable_pure _

/-- Cutting off an encoding ends it after some of its records, or makes it truncated. -/
theorem readRecords_of_append {records : List Record} {s more : Bytes}
    (h : writeAll writeRecord records = .ofBytes (s ++ more)) :
    (∃ k, writeAll writeRecord (records.take k) = .ofBytes s) ∨
      ∃ needed available, available < needed ∧
        readRecords s = .error (.truncated needed available) := by
  induction records generalizing s with
  | nil =>
    have empty : s ++ more = [] := (Written.ofBytes_inj.1 h).symm
    obtain ⟨rfl, -⟩ := List.append_eq_nil_iff.1 empty
    exact Or.inl ⟨0, rfl⟩
  | cons record records ih =>
    obtain ⟨first, tail, hfirst, htail, hs⟩ := writeAll_cons_eq_ofBytes_iff.1 h
    rcases List.append_eq_append_iff.1 hs with ⟨cut, rfl, rfl⟩ | ⟨read, rfl, rfl⟩
    · -- The cut is in the first record, or at one of its ends.
      by_cases before : s = []
      · subst before
        exact Or.inl ⟨0, rfl⟩
      · by_cases after : cut = []
        · subst after
          rw [List.append_nil] at hfirst
          exact Or.inl ⟨1, writeAll_cons_eq_ofBytes_iff.2
            ⟨s, [], hfirst, rfl, (List.append_nil s).symm⟩⟩
        · have hrun : readRecord.run (s ++ cut) = (.ok record, []) :=
            (reads_readRecord _ _ _).2 ⟨s ++ cut, hfirst, (List.append_nil _).symm⟩
          obtain ⟨needed, available, rest, less, hfault⟩ :=
            stable_readRecord.truncated_of_append hrun after
          exact Or.inr ⟨needed, available, less, readRecords_of_fault before hfault⟩
    · -- The first record is whole, and the cut is among the others.
      have hrun : readRecord.run (first ++ read) = (.ok record, read) :=
        (reads_readRecord _ _ _).2 ⟨first, hfirst, rfl⟩
      rcases ih htail with ⟨k, hk⟩ | ⟨needed, available, less, hread⟩
      · exact Or.inl ⟨k + 1, writeAll_cons_eq_ofBytes_iff.2 ⟨first, read, hfirst, hk, rfl⟩⟩
      · refine Or.inr ⟨needed, available, less, ?_⟩
        rw [readRecords_of_run hrun, hread]
        rfl

/-- An encoding that is cut off after `n` bytes holds its first records if they take `n` bytes; if no
number of them does, it is truncated. -/
theorem RecordSet.records_take {records : List Record} {set : RecordSet}
    (h : ofRecords records = .ok set) {n : Nat} (hn : n ≤ set.size) :
    (∀ k, ((records.take k).map Record.encodedSize).sum = n →
        ofRecords (records.take k) = .ok ⟨set.bytes.take n⟩ ∧
          RecordSet.records ⟨set.bytes.take n⟩ = .ok (records.take k)) ∧
      ((∀ k, ((records.take k).map Record.encodedSize).sum ≠ n) →
        ∃ needed available, available < needed ∧
          RecordSet.records ⟨set.bytes.take n⟩ = .error (.truncated needed available)) := by
  have written := ofRecords_eq_ok_iff.1 h
  constructor
  · rintro k rfl
    have cut : ofRecords (records.take k) = .ok ⟨set.bytes.take _⟩ :=
      ofRecords_eq_ok_iff.2 (writeAll_take written k)
    exact ⟨cut, records_eq_ok_iff.2 cut⟩
  · intro off
    rw [← List.take_append_drop n set.bytes] at written
    refine (readRecords_of_append written).resolve_left ?_
    rintro ⟨k, hk⟩
    apply off k
    rw [← length_of_writeRecords hk, List.length_take]
    exact Nat.min_eq_left hn

/-- Two records, cut off inside the two bytes of a header's name and then between the records. -/
theorem RecordSet.records_take_two_records :
    let records : List Record := [⟨1, none, some [104, 105], [⟨"é", none⟩]⟩, ⟨2, none, none, []⟩]
    let bytes : Bytes := [0, 0, 0, 0, 0, 0, 0, 1, 255, 255, 255, 255, 0, 0, 0, 2, 104, 105, 0, 1,
      0, 2, 195, 169, 255, 255, 255, 255,
      0, 0, 0, 0, 0, 0, 0, 2, 255, 255, 255, 255, 255, 255, 255, 255, 0, 0]
    ofRecords records = .ok ⟨bytes⟩ ∧
      (∃ needed available, available < needed ∧
        RecordSet.records ⟨bytes.take 23⟩ = .error (.truncated needed available)) ∧
      RecordSet.records ⟨bytes.take 28⟩ = .ok (records.take 1) := by
  intro records bytes
  have written : ofRecords records = .ok ⟨bytes⟩ := by cbv
  have off (k : ℕ) : ((records.take k).map Record.encodedSize).sum ≠ 23 := by
    rcases k with _ | _ | k
    · decide
    · decide
    · have all : records.take (k + 2) = records := List.take_of_length_le (by simp [records])
      rw [all]
      decide
  exact ⟨written, (records_take written (by decide)).2 off,
    ((records_take written (by decide)).1 1 (by decide)).2⟩

/-- What follows a set that can be read is read after it, and its fault is that of both together. -/
theorem readRecords_append {s : Bytes} {records : List Record} (h : readRecords s = .ok records)
    (more : Bytes) : readRecords (s ++ more) = (readRecords more).map (records ++ ·) := by
  fun_induction readRecords s generalizing records with
  | case1 =>
    obtain rfl := Except.ok.inj h
    rw [List.nil_append]
    cases readRecords more <;> rfl
  | case2 b s error rest hrun => cases h
  | case3 b s record rest hrun ih =>
    cases hrest : readRecords rest with
    | error error => simp [hrest, bind, Except.bind] at h
    | ok others =>
      obtain rfl : record :: others = records := by simpa [hrest, bind, Except.bind] using h
      rw [readRecords_of_run (stable_readRecord.ok hrun more), ih hrest]
      cases readRecords more <;> rfl

/-- A record that is read, and one that is refused, is so before any other bytes, which are left with the
rest.  One that is truncated stays so as long as too few follow; the bytes that are left are those that were
available.  A set that is read is read before any other. -/
theorem readRecord_before_more :
    (∀ s record rest, readRecord.run s = (.ok record, rest) →
      rest <:+ s ∧ rest.length + 18 ≤ s.length ∧
        ∀ more, readRecord.run (s ++ more) = (.ok record, rest ++ more)) ∧
    (∀ s error rest, readRecord.run s = (.error error, rest) →
      (∀ needed available, error ≠ .truncated needed available) →
        ∀ more, readRecord.run (s ++ more) = (.error error, rest ++ more)) ∧
    (∀ s needed available rest, readRecord.run s = (.error (.truncated needed available), rest) →
      rest.length = available ∧ available < needed ∧
        ∀ more : Bytes, more.length < needed - available →
          readRecord.run (s ++ more) =
            (.error (.truncated needed (available + more.length)), rest ++ more)) ∧
    ∀ s more records, RecordSet.records ⟨s⟩ = .ok records →
      RecordSet.records ⟨s ++ more⟩ = (RecordSet.records ⟨more⟩).map (records ++ ·) := by
  refine ⟨fun s record rest h => ⟨?_, takes_readRecord s record rest h, stable_readRecord.ok h⟩,
    fun s error rest h complete => stable_readRecord.refused h complete,
    fun s needed available rest h => ?_, fun s more records h => readRecords_append h more⟩
  · obtain ⟨bytes, -, rfl⟩ := (reads_readRecord _ _ _).1 h
    exact List.suffix_append bytes rest
  · obtain ⟨left, less, short⟩ := stable_readRecord.truncated h
    exact ⟨left.symm, less, fun more few => short more (by omega)⟩

/-- A record with a header before half a word, a negative length, a name that is not in UTF-8, and a value
that is two bytes short; then a set before one of its length's bytes is missing. -/
theorem readRecord_before_more_faults :
    let whole : Bytes := [0, 0, 0, 0, 0, 0, 0, 1, 255, 255, 255, 255, 0, 0, 0, 1, 104, 0, 1,
      0, 2, 195, 169, 0, 0, 0, 0]
    let record : Record := ⟨1, none, some [104], [⟨"é", some []⟩]⟩
    let negative : Bytes := [0, 0, 0, 0, 0, 0, 0, 1, 255, 255, 255, 249]
    let misnamed : Bytes := [0, 0, 0, 0, 0, 0, 0, 1, 255, 255, 255, 255, 255, 255, 255, 255, 0, 1,
      0, 2, 195, 40]
    let short : Bytes := [0, 0, 0, 0, 0, 0, 0, 1, 0, 0, 0, 3, 7]
    readRecord.run (whole ++ [5, 6]) = (.ok record, [5, 6]) ∧
      ([5, 6] : Bytes) <:+ whole ++ [5, 6] ∧
      readRecord.run (whole ++ [5, 6] ++ [8]) = (.ok record, [5, 6] ++ [8]) ∧
      readRecord.run (negative ++ [8]) = (.error (.invalidLength .recordKey (-7)), [] ++ [8]) ∧
      readRecord.run (misnamed ++ [8]) = (.error .invalidHeaderKey, [] ++ [8]) ∧
      readRecord.run short = (.error (.truncated 3 1), [7]) ∧
      readRecord.run (short ++ [8]) = (.error (.truncated 3 2), [7] ++ [8]) ∧
      RecordSet.records ⟨whole⟩ = .ok [record] ∧
      RecordSet.records ⟨whole ++ short⟩ = .error (.truncated 3 1) := by
  intro whole record negative misnamed short
  have read : readRecord.run (whole ++ [5, 6]) = (.ok record, [5, 6]) := by cbv
  have refused : readRecord.run negative = (.error (.invalidLength .recordKey (-7)), []) := by cbv
  have unnamed : readRecord.run misnamed = (.error .invalidHeaderKey, []) := by cbv
  have cut : readRecord.run short = (.error (.truncated 3 1), [7]) := by cbv
  have set : RecordSet.records ⟨whole⟩ = .ok [record] := by cbv
  have fault : RecordSet.records ⟨short⟩ = .error (.truncated 3 1) := by cbv
  obtain ⟨taken, stands, missing, joined⟩ := readRecord_before_more
  refine ⟨read, (taken _ _ _ read).1, (taken _ _ _ read).2.2 [8],
    stands _ _ _ refused (by simp) [8], stands _ _ _ unnamed (by simp) [8], cut,
    (missing _ _ _ _ cut).2.2 [8] (by decide), set, ?_⟩
  rw [joined whole short _ set, fault]
  rfl

end SchemaGate.Broker

import SchemaGate.Broker.Record
import SchemaGate.Broker.Word

/-!
# Reading records

Readers take bytes from the front and leave the rest, also when they fail.  `Takes` bounds what a
success consumes, so a set is read in finitely many steps.
-/

namespace SchemaGate.Broker

/-- Reads from the front of the bytes; a failure leaves what it has not taken. -/
def Decoder (α : Type) : Type := Bytes → Except WireError α × Bytes

namespace Decoder

variable {α β : Type}

def run (d : Decoder α) (s : Bytes) : Except WireError α × Bytes := d s

def done (a : α) : Decoder α := fun s => (.ok a, s)

def fail (error : WireError) : Decoder α := fun s => (.error error, s)

def andThen (d : Decoder α) (next : α → Decoder β) : Decoder β := fun s =>
  match d.run s with
  | (.ok a, rest) => (next a).run rest
  | (.error error, rest) => (.error error, rest)

instance : Monad Decoder where
  pure := done
  bind := andThen

@[simp] theorem run_pure (a : α) (s : Bytes) : (pure a : Decoder α).run s = (.ok a, s) := rfl

theorem run_pure_eq_ok_iff {a b : α} {s rest : Bytes} :
    (pure a : Decoder α).run s = (.ok b, rest) ↔ a = b ∧ s = rest := by
  simp

@[simp] theorem run_fail (error : WireError) (s : Bytes) :
    (fail error : Decoder α).run s = (.error error, s) := rfl

theorem run_bind_of_ok {d : Decoder α} {next : α → Decoder β} {s mid : Bytes} {a : α}
    (h : d.run s = (.ok a, mid)) : (d >>= next).run s = (next a).run mid := by
  change andThen d next s = _
  rw [andThen, h]

theorem run_bind_of_error {d : Decoder α} {next : α → Decoder β} {s rest : Bytes}
    {error : WireError} (h : d.run s = (.error error, rest)) :
    (d >>= next).run s = (.error error, rest) := by
  change andThen d next s = _
  rw [andThen, h]

theorem run_bind_eq_ok_iff {d : Decoder α} {next : α → Decoder β} {s rest : Bytes} {b : β} :
    (d >>= next).run s = (.ok b, rest) ↔
      ∃ a mid, d.run s = (.ok a, mid) ∧ (next a).run mid = (.ok b, rest) := by
  constructor
  · intro h
    rcases hd : d.run s with ⟨error | a, mid⟩
    · rw [run_bind_of_error hd] at h
      simp at h
    · rw [run_bind_of_ok hd] at h
      exact ⟨a, mid, rfl, h⟩
  · rintro ⟨a, mid, ha, hb⟩
    rw [run_bind_of_ok ha, hb]

theorem run_bind_eq_error_iff {d : Decoder α} {next : α → Decoder β} {s rest : Bytes}
    {error : WireError} :
    (d >>= next).run s = (.error error, rest) ↔
      d.run s = (.error error, rest) ∨
        ∃ a mid, d.run s = (.ok a, mid) ∧ (next a).run mid = (.error error, rest) := by
  constructor
  · intro h
    rcases hd : d.run s with ⟨fault | a, mid⟩
    · rw [run_bind_of_error hd] at h
      exact Or.inl (by simpa using h)
    · rw [run_bind_of_ok hd] at h
      exact Or.inr ⟨a, mid, rfl, h⟩
  · rintro (h | ⟨a, mid, ha, hb⟩)
    · exact run_bind_of_error h
    · rw [run_bind_of_ok ha, hb]

/-- Whether every success takes at least `n` bytes. -/
def Takes (n : Nat) (d : Decoder α) : Prop :=
  ∀ s a rest, d.run s = (.ok a, rest) → rest.length + n ≤ s.length

theorem takes_done (a : α) : Takes 0 (pure a : Decoder α) := by
  intro s b rest h
  obtain ⟨rfl, rfl⟩ := run_pure_eq_ok_iff.1 h
  exact Nat.le_refl _

theorem takes_fail (n : Nat) (error : WireError) : Takes n (fail error : Decoder α) := by
  intro s a rest h
  simp at h

theorem Takes.bind {m n : Nat} {d : Decoder α} {next : α → Decoder β} (hd : Takes m d)
    (hn : ∀ a, Takes n (next a)) : Takes (m + n) (d >>= next) := by
  intro s b rest h
  obtain ⟨a, mid, ha, hb⟩ := run_bind_eq_ok_iff.1 h
  have := hd s a mid ha
  have := hn a mid b rest hb
  omega

theorem Takes.mono {m n : Nat} {d : Decoder α} (hd : Takes n d) (h : m ≤ n) : Takes m d := by
  intro s a rest hs
  have := hd s a rest hs
  omega

end Decoder

def takeBytes (n : Nat) : Decoder Bytes := fun s =>
  if (s.take n).length = n then (.ok (s.take n), s.drop n)
  else (.error (.truncated n s.length), s)

theorem run_takeBytes_eq_ok_iff {n : Nat} {s bytes rest : Bytes} :
    (takeBytes n).run s = (.ok bytes, rest) ↔ bytes.length = n ∧ s = bytes ++ rest := by
  unfold Decoder.run takeBytes
  constructor
  · intro h
    split at h
    · next hn =>
      obtain ⟨hbytes, rfl⟩ := Prod.mk.inj h
      obtain rfl := Except.ok.inj hbytes
      exact ⟨hn, (List.take_append_drop n s).symm⟩
    · simp at h
  · rintro ⟨rfl, rfl⟩
    simp

theorem run_takeBytes_eq_error_iff {n : Nat} {s rest : Bytes} {error : WireError} :
    (takeBytes n).run s = (.error error, rest) ↔
      s.length < n ∧ error = .truncated n s.length ∧ rest = s := by
  unfold Decoder.run takeBytes
  rw [List.length_take]
  split
  · next hn =>
    have long : ¬ s.length < n := by omega
    simp [long]
  · next hn =>
    have short : s.length < n := by omega
    simp [short, eq_comm]

def readWord (width : Nat) : Decoder Nat := do
  let bytes ← takeBytes width
  pure (wordValue bytes)

/-- A key or a value; a negative length other than that of null is refused. -/
def readNullable (field : Field) : Decoder (Option Bytes) := do
  let length ← readWord 4
  if length = 4294967295 then pure none
  else if maxLength < length then .fail (.invalidLength field (length - 4294967296))
  else do
    let bytes ← takeBytes length
    pure (some bytes)

def readHeader : Decoder Header := do
  let length ← readWord 2
  let bytes ← takeBytes length
  match Utf8.decode? bytes with
  | none => .fail .invalidHeaderKey
  | some name => do
    let value ← readNullable .headerValue
    pure ⟨name, value⟩

def readHeaders : (count : Nat) → Decoder (List Header)
  | 0 => pure []
  | count + 1 => do
    let header ← readHeader
    let headers ← readHeaders count
    pure (header :: headers)

def readRecord : Decoder Record := do
  let offset ← readWord 8
  let key ← readNullable .recordKey
  let value ← readNullable .recordValue
  let count ← readWord 2
  let headers ← readHeaders count
  pure ⟨(UInt64.ofNat offset).toInt64, key, value, headers⟩

theorem takes_takeBytes (n : Nat) : (takeBytes n).Takes n := by
  intro s a rest h
  obtain ⟨rfl, rfl⟩ := run_takeBytes_eq_ok_iff.1 h
  simp [Nat.add_comm]

theorem takes_readWord (width : Nat) : (readWord width).Takes width :=
  (takes_takeBytes width).bind fun _ => Decoder.takes_done _

theorem takes_readNullable (field : Field) : (readNullable field).Takes 4 := by
  refine (takes_readWord 4).bind (n := 0) fun length => ?_
  split
  · exact Decoder.takes_done _
  · split
    · exact Decoder.takes_fail _ _
    · exact ((takes_takeBytes length).bind fun _ => Decoder.takes_done _).mono (Nat.zero_le _)

theorem takes_readHeader : readHeader.Takes 6 := by
  refine (takes_readWord 2).bind (n := 4) fun length => ?_
  refine ((takes_takeBytes length).bind (n := 4) fun bytes => ?_).mono (by omega)
  split
  · exact Decoder.takes_fail _ _
  · exact (takes_readNullable _).bind fun _ => Decoder.takes_done _

theorem takes_readHeaders (count : Nat) : (readHeaders count).Takes (6 * count) := by
  induction count with
  | zero => exact Decoder.takes_done _
  | succ count ih =>
    exact (takes_readHeader.bind fun _ => ih.bind fun _ => Decoder.takes_done _).mono (by omega)

theorem takes_readRecord : readRecord.Takes 18 := by
  refine ((takes_readWord 8).bind (n := 10) fun _ =>
    ((takes_readNullable _).bind (n := 6) fun _ =>
      ((takes_readNullable _).bind (n := 2) fun _ =>
        ((takes_readWord 2).bind (n := 0) fun count =>
          ((takes_readHeaders count).bind fun _ => Decoder.takes_done _).mono ?_))))
  omega

/-- The records of an encoding; it ends where a record ends, or is refused. -/
def readRecords (s : Bytes) : Except WireError (List Record) :=
  match s with
  | [] => .ok []
  | b :: s =>
    match _taken : readRecord.run (b :: s) with
    | (.error error, _) => .error error
    | (.ok record, rest) => do
      let records ← readRecords rest
      .ok (record :: records)
termination_by s.length
decreasing_by
  have := takes_readRecord (b :: s) record rest _taken
  simp only [List.length_cons] at this ⊢
  omega

def RecordSet.records (set : RecordSet) : Except WireError (List Record) :=
  readRecords set.bytes

end SchemaGate.Broker

import SchemaGate.Proofs.Json.Shape

/-!
# Values as they are written

A value that has been written is read back, with the members of its objects sorted by name as in all values
that are read.  Main statement: `parse_print`.
-/

namespace SchemaGate.Json

open Token Shape

/-- The value with the members of its objects as a reader keeps them. -/
def sorted : Json → Json
  | .array items => .array (items.map sorted)
  | .object members =>
    .object (NameMap.ofList (members.map fun entry => (entry.1, entry.2.sorted))).entries
  | .null => .null
  | .bool b => .bool b
  | .number n => .number n
  | .string text => .string text
decreasing_by
  · rename_i member
    have := List.sizeOf_lt_of_mem member
    simp only [array.sizeOf_spec]
    omega
  · rename_i member
    have := List.sizeOf_lt_of_mem member
    obtain ⟨name, v⟩ := entry
    simp only [Prod.mk.sizeOf_spec, object.sizeOf_spec] at this ⊢
    omega

/-- Numbers are whole and keep to 64 bits, and at most so many brackets stand open around each other. -/
inductive Fits : (levels : Nat) → Json → Prop where
  | null {levels : Nat} : Fits levels .null
  | bool {levels : Nat} (b : Bool) : Fits levels (.bool b)
  | integer {levels : Nat} {n : Int} (low : -9223372036854775808 ≤ n)
      (high : n < 18446744073709551616) : Fits levels (.number (.integer n))
  | string {levels : Nat} (text : String) : Fits levels (.string text)
  | array {levels : Nat} {items : List Json} (each : ∀ v ∈ items, Fits levels v) :
      Fits (levels + 1) (.array items)
  | object {levels : Nat} {members : List (String × Json)}
      (each : ∀ entry ∈ members, Fits levels entry.2) : Fits (levels + 1) (.object members)

theorem bytes_null : bytes .null = 110 :: restOfNull := by
  rw [bytes, print]
  decide

theorem bytes_negative (n : Nat) :
    bytes (.number (.integer (Int.negSucc n))) = minus :: digitBytes (n + 1) := by
  have text : toString (Int.negSucc n) = "-" ++ toString (n + 1) := rfl
  have sign : Utf8.encode "-" = [minus] := by decide
  rw [bytes, print, Number.text, text, Utf8.encode_append, sign, encode_toString_nat]
  rfl

/-- The items of a list as they are written; all but the first come after a comma. -/
def itemBytes : (first : Bool) → List Json → Bytes
  | _, [] => []
  | first, v :: rest => (if first then [] else [comma]) ++ (v.bytes ++ itemBytes false rest)

theorem encode_printItems (list : List Json) : Utf8.encode (printItems list) = itemBytes true list := by
  have commaText : Utf8.encode "," = [comma] := by decide
  induction list with
  | nil => rw [printItems, Utf8.encode_empty, itemBytes]
  | cons v rest ih =>
    cases rest with
    | nil => simp [printItems, itemBytes, bytes]
    | cons w others =>
      have after : itemBytes false (w :: others) = comma :: itemBytes true (w :: others) := by
        simp [itemBytes]
      rw [printItems, Utf8.encode_append, Utf8.encode_append, commaText, ih]
      · simp [itemBytes, bytes]
      · exact fun same => List.cons_ne_nil _ _ same

theorem bytes_array (list : List Json) :
    bytes (.array list) = openList :: (itemBytes true list ++ [closeList]) := by
  have opening : Utf8.encode "[" = [openList] := by decide
  have ending : Utf8.encode "]" = [closeList] := by decide
  rw [bytes, print, Utf8.encode_append, Utf8.encode_append, opening, ending, encode_printItems]
  rfl

theorem exists_bytes_cons {levels : Nat} {v : Json} (h : Fits levels v) :
    ∃ b rest, v.bytes = b :: rest ∧ isSpace b = false ∧ b ≠ closeList := by
  cases h with
  | null => exact ⟨_, _, bytes_null, by decide, by decide⟩
  | bool b =>
    cases b with
    | false => exact ⟨_, _, bytes_false, by decide, by decide⟩
    | true => exact ⟨_, _, bytes_true, by decide, by decide⟩
  | @integer _ n low high =>
    cases n with
    | ofNat n =>
      obtain ⟨d, ds, digits, digit, -, -⟩ := digitBytes_cases n
      refine ⟨d, ds, (bytes_natural n).trans digits, isSpace_of_isDigit digit, ?_⟩
      rintro rfl
      exact absurd digit (by decide)
    | negSucc n => exact ⟨_, _, bytes_negative n, by decide, by decide⟩
  | string text => exact ⟨_, _, bytes_string text, by decide, by decide⟩
  | array each => exact ⟨_, _, bytes_array _, by decide, by decide⟩
  | object each => exact ⟨_, _, bytes_object _, by decide, by decide⟩

/-- The reader takes the value for what it is when it has been sorted, whatever follows. -/
def ReadBy (inner : Bytes → Except Fault (Parsed Json)) (v : Json) : Prop :=
  ∀ s, Delimited s → inner (v.bytes ++ s) = .ok (v.sorted, s)

section Items

variable {inner : Bytes → Except Fault (Parsed Json)} {levels : Nat}

theorem delimited_itemBytes (list : List Json) (s : Bytes) :
    Delimited (itemBytes false list ++ closeList :: s) := by
  cases list with
  | nil => exact delimited_cons (.inr (.inl rfl))
  | cons v rest => exact delimited_cons (.inl rfl)

theorem nextItem_written (first : Bool) {v : Json} (h : Fits levels v) (s : Bytes) :
    nextItem first ((if first then [] else [comma]) ++ (v.bytes ++ s)) = .ok (some (v.bytes ++ s)) := by
  obtain ⟨b, rest, written, visible, goesOn⟩ := exists_bytes_cons h
  have separated : comma ≠ closeList := by decide
  rw [written, List.cons_append]
  cases first with
  | true => simp [nextItem, skipSpace_cons visible, goesOn]
  | false => simp (disch := decide) [nextItem, skipSpace_cons, skipSpace_cons visible, goesOn, separated]

theorem items_written {list : List Json} (fit : ∀ v ∈ list, Fits levels v)
    (read : ∀ v ∈ list, ReadBy inner v) (first : Bool) {fuel : Nat} (enough : list.length < fuel)
    (s : Bytes) :
    items inner fuel first (itemBytes first list ++ closeList :: s) =
      .ok (list.map sorted, closeList :: s) := by
  induction list generalizing first fuel with
  | nil =>
    obtain ⟨fuel, rfl⟩ := Nat.exists_eq_succ_of_ne_zero (Nat.ne_of_gt enough)
    simp (disch := decide) [itemBytes, items, nextItem, skipSpace_cons, bind, Except.bind]
  | cons v rest ih =>
    obtain ⟨fuel, rfl⟩ := Nat.exists_eq_succ_of_ne_zero (Nat.ne_of_gt (Nat.zero_lt_of_lt enough))
    have head := read v List.mem_cons_self _ (delimited_itemBytes rest s)
    have others := ih (fun w member => fit w (List.mem_cons_of_mem v member))
      (fun w member => read w (List.mem_cons_of_mem v member)) false (Nat.lt_of_succ_lt_succ enough)
    rw [itemBytes, List.append_assoc, List.append_assoc, items,
      nextItem_written first (fit v List.mem_cons_self)]
    simp only [bind, Except.bind, head, others, List.map_cons]

theorem length_le_itemBytes (first : Bool) {list : List Json} (fit : ∀ v ∈ list, Fits levels v) :
    list.length ≤ (itemBytes first list).length := by
  induction list generalizing first with
  | nil => exact Nat.zero_le _
  | cons v rest ih =>
    obtain ⟨b, bytes, written, -⟩ := exists_bytes_cons (fit v List.mem_cons_self)
    have others := ih false fun w member => fit w (List.mem_cons_of_mem v member)
    simp only [itemBytes, written, List.length_append, List.length_cons]
    omega

theorem inList_written {list : List Json} (fit : ∀ v ∈ list, Fits levels v)
    (read : ∀ v ∈ list, ReadBy inner v) (s : Bytes) :
    inList (fun s => items inner (s.length + 1) true s) (bytes (.array list) ++ s) =
      .ok (list.map sorted, s) := by
  have enough : list.length < (itemBytes true list ++ closeList :: s).length + 1 := by
    have := length_le_itemBytes true fit
    rw [List.length_append]
    omega
  have shape : bytes (.array list) ++ s = openList :: (itemBytes true list ++ closeList :: s) := by
    simp [bytes_array]
  rw [shape, inList, List.tail_cons, items_written fit read true enough]
  simp (disch := decide) [endList, skipSpace_cons, bind, Except.bind]

/-- How a reader goes on with a member: its value is put at the place of its name. -/
def putMember (inner : Bytes → Except Fault (Parsed Json)) (name : String)
    (state : List (String × Json)) (s : Bytes) : Except Fault (Parsed (List (String × Json))) := do
  let s ← readColon s
  let (v, s) ← inner s
  .ok (putNamed name v state, s)

theorem steps_written {list : List (String × Json)} (read : ∀ entry ∈ list, ReadBy inner entry.2)
    (map : NameMap Json) :
    Steps (putMember inner) map.entries list
      (map.insertAll (list.map fun entry => (entry.1, entry.2.sorted))).entries := by
  induction list generalizing map with
  | nil => exact .nil _
  | cons entry rest ih =>
    obtain ⟨name, v⟩ := entry
    have others := ih (fun other member => read other (List.mem_cons_of_mem _ member))
      (map.insert name v.sorted)
    refine .cons (fun s delimited => ?_) others
    have head := read _ List.mem_cons_self s delimited
    simp only [putMember, readColon_colon, bind, Except.bind, head]
    rfl

end Items

section Words

variable (inner : Option (Bytes → Except Fault (Parsed Json)))

theorem valueWith_null (s : Bytes) : valueWith inner (bytes .null ++ s) = .ok (.null, s) := by
  have dispatch (rest : Bytes) : valueWith inner (110 :: rest) =
      word restOfNull rest >>= fun s => .ok (.null, s) := rfl
  rw [bytes_null, List.cons_append, dispatch, word_written]
  rfl

theorem valueWith_bool (b : Bool) (s : Bytes) :
    valueWith inner (bytes (.bool b) ++ s) = .ok (.bool b, s) := by
  cases b with
  | false =>
    have dispatch (rest : Bytes) : valueWith inner (102 :: rest) =
        word restOfFalse rest >>= fun s => .ok (.bool false, s) := rfl
    rw [bytes_false, List.cons_append, dispatch, word_written]
    rfl
  | true =>
    have dispatch (rest : Bytes) : valueWith inner (116 :: rest) =
        word restOfTrue rest >>= fun s => .ok (.bool true, s) := rfl
    rw [bytes_true, List.cons_append, dispatch, word_written]
    rfl

theorem valueWith_digit {d : UInt8} (digit : isDigit d = true) (rest : Bytes) :
    valueWith inner (d :: rest) =
      Token.number false (d :: rest) >>= fun read => .ok (.number read.1, read.2) := by
  have other (b : UInt8) (no : isDigit b = false) : d ≠ b := by
    rintro rfl
    exact absurd digit (by simp [no])
  rw [valueWith, skipSpace_cons (isSpace_of_isDigit digit)]
  simp only [if_neg (other 110 rfl), if_neg (other 116 rfl), if_neg (other 102 rfl),
    if_neg (other minus rfl), if_pos digit]

theorem valueWith_integer {n : Int} (low : -9223372036854775808 ≤ n)
    (high : n < 18446744073709551616) {s : Bytes} (delimited : Delimited s) :
    valueWith inner (bytes (.number (.integer n)) ++ s) = .ok (.number (.integer n), s) := by
  cases n with
  | ofNat n =>
    obtain ⟨d, ds, digits, digit, -, -⟩ := digitBytes_cases n
    have number := number_written (Int.ofNat_lt.1 high) false delimited
    rw [digits, List.cons_append] at number
    have written : bytes (.number (.integer (.ofNat n))) = d :: ds := (bytes_natural n).trans digits
    rw [written, List.cons_append, valueWith_digit inner digit, number]
    rfl
  | negSucc n =>
    have dispatch (rest : Bytes) : valueWith inner (minus :: rest) =
        Token.number true rest >>= fun read => .ok (.number read.1, read.2) := rfl
    have least : 0 < n + 1 ∧ n + 1 ≤ 9223372036854775808 := by omega
    have meaning : Token.whole true (n + 1) = .integer (Int.negSucc n) := if_pos least
    rw [bytes_negative, List.cons_append, dispatch, number_written (by omega) true delimited, meaning]
    rfl

end Words

section Brackets

variable {inner : Bytes → Except Fault (Parsed Json)}

theorem valueWith_array {levels : Nat} {list : List Json} (fit : ∀ v ∈ list, Fits levels v)
    (read : ∀ v ∈ list, ReadBy inner v) (s : Bytes) :
    valueWith (some inner) (bytes (.array list) ++ s) = .ok (.array (list.map sorted), s) := by
  have dispatch (rest : Bytes) : valueWith (some inner) (openList :: rest) =
      inList (fun s => items inner (s.length + 1) true s) (openList :: rest) >>=
        fun read => .ok (.array read.1, read.2) := rfl
  have all := inList_written fit read s
  rw [bytes_array, List.cons_append] at all ⊢
  rw [dispatch, all]
  rfl

theorem valueWith_object {list : List (String × Json)} (read : ∀ entry ∈ list, ReadBy inner entry.2)
    (s : Bytes) :
    valueWith (some inner) (bytes (.object list) ++ s) = .ok (sorted (.object list), s) := by
  have dispatch (rest : Bytes) : valueWith (some inner) (openObject :: rest) =
      inObject (fun s => members (putMember inner) (s.length + 1) true [] s) (openObject :: rest) >>=
        fun read => .ok (.object read.1, read.2) := rfl
  have all := inObject_of_steps (steps_written read .empty) (fun _ _ done => done) s
  rw [bytes_object, List.cons_append] at all ⊢
  rw [dispatch, sorted]
  exact congrArg (· >>= _) all

end Brackets

theorem exists_value_eq (depth : Nat) : ∃ inner, value depth = valueWith inner := by
  cases depth with
  | zero => exact ⟨none, rfl⟩
  | succ depth => exact ⟨some (value depth), rfl⟩

/-- Within as many brackets as a value needs, its text is read as the value. -/
theorem reads_value {levels : Nat} {v : Json} (fit : Fits levels v) : Reads value v v.sorted levels := by
  intro depth enough s delimited
  induction fit generalizing depth s with
  | null =>
    obtain ⟨inner, read⟩ := exists_value_eq depth
    rw [sorted, read, valueWith_null]
  | bool b =>
    obtain ⟨inner, read⟩ := exists_value_eq depth
    rw [sorted, read, valueWith_bool]
  | integer low high =>
    obtain ⟨inner, read⟩ := exists_value_eq depth
    rw [sorted, read, valueWith_integer inner low high delimited]
  | string text =>
    rw [sorted, reads_value_string text depth (Nat.zero_le depth) s delimited]
  | array fit ih =>
    obtain ⟨depth, rfl⟩ := Nat.exists_eq_add_of_lt enough
    rw [sorted]
    refine valueWith_array fit (fun v member s => ?_) s
    exact ih v member _ (by omega) s
  | object fit ih =>
    obtain ⟨depth, rfl⟩ := Nat.exists_eq_add_of_lt enough
    refine valueWith_object (fun entry member s => ?_) s
    exact ih entry member _ (by omega) s

/-- A value of whole numbers that is not nested too deep is read back when it has been printed. -/
theorem parse_print {v : Json} (fit : Fits maxDepth v) :
    parse (Utf8.encode v.print) = .ok v.sorted :=
  whole_of_reads (reads_value fit) (Nat.le_refl maxDepth)

@[simp] theorem sorted_string (text : String) : sorted (.string text) = .string text := by
  rw [sorted]

@[simp] theorem sorted_number (n : Number) : sorted (.number n) = .number n := by
  rw [sorted]

@[simp] theorem sorted_bool (b : Bool) : sorted (.bool b) = .bool b := by
  rw [sorted]

def names : Json → List String
  | .object members => members.map Prod.fst
  | _ => []

theorem get?_sorted {v : Json} (distinct : v.names.Nodup) (name : String) :
    v.sorted.get? name = (v.get? name).map sorted := by
  cases v with
  | object list =>
    have kept : ((list.map fun entry => (entry.1, entry.2.sorted)).map Prod.fst).Nodup := by
      rw [List.map_map]
      exact distinct
    have found := NameMap.get?_ofList_of_nodup kept name
    rw [lookup_mapValues] at found
    rw [sorted]
    exact found
  | _ => rw [sorted]; rfl

end SchemaGate.Json

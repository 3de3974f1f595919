import Mathlib
import SchemaGate.Json.Shape
import SchemaGate.Proofs.Json.Text
import SchemaGate.Proofs.Text.NameMap

/-!
# Shapes as they are written

Readers of shapes against the texts of values.  A reader that takes the text of a value for something
does so within other values too, so the laws for the parts of a shape make one for the shape.  Main
statements: `reads_record`, `reads_tagged` and `whole_of_reads`.
-/

namespace SchemaGate

open Token

namespace Json

def bytes (v : Json) : Bytes :=
  Utf8.encode v.print

theorem bytes_string (text : String) : bytes (.string text) = quote :: closing text := by
  rw [bytes, print, encode_quoteJson]

theorem bytes_true : bytes (.bool true) = 116 :: restOfTrue := by
  rw [bytes, print]
  decide

theorem bytes_false : bytes (.bool false) = 102 :: restOfFalse := by
  rw [bytes, print]
  decide

theorem bytes_natural (n : Nat) : bytes (.number (.integer n)) = digitBytes n := by
  rw [bytes, print]
  exact encode_toString_nat n

/-- The members of an object as they are written; all but the first come after a comma. -/
def memberBytes : (first : Bool) → List (String × Json) → Bytes
  | _, [] => []
  | first, (name, v) :: rest =>
    (if first then [] else [comma]) ++
      quote :: (closing name ++ colon :: (v.bytes ++ memberBytes false rest))

theorem encode_printMembers (list : List (String × Json)) :
    Utf8.encode (printMembers list) = memberBytes true list := by
  have colonText : Utf8.encode ":" = [colon] := by decide
  have commaText : Utf8.encode "," = [comma] := by decide
  induction list with
  | nil => rw [printMembers, Utf8.encode_empty, memberBytes]
  | cons entry rest ih =>
    obtain ⟨name, v⟩ := entry
    cases rest with
    | nil =>
      rw [printMembers, Utf8.encode_append, Utf8.encode_append, encode_quoteJson, colonText]
      simp [memberBytes, bytes]
    | cons next others =>
      obtain ⟨other, w⟩ := next
      have after : memberBytes false ((other, w) :: others) =
          comma :: memberBytes true ((other, w) :: others) := by
        simp [memberBytes]
      rw [printMembers, Utf8.encode_append, Utf8.encode_append, Utf8.encode_append,
        Utf8.encode_append, encode_quoteJson, colonText, commaText, ih]
      · simp [memberBytes, bytes]
      · exact fun same => List.cons_ne_nil _ _ same

theorem bytes_object (list : List (String × Json)) :
    bytes (.object list) = openObject :: (memberBytes true list ++ [closeObject]) := by
  have opening : Utf8.encode "\x7b" = [openObject] := by decide
  have ending : Utf8.encode "\x7d" = [closeObject] := by decide
  rw [bytes, print, Utf8.encode_append, Utf8.encode_append, opening, ending, encode_printMembers]
  rfl

end Json

theorem skipSpace_cons {b : UInt8} (visible : isSpace b = false) (s : Bytes) :
    skipSpace (b :: s) = b :: s :=
  List.dropWhile_cons_of_neg (Bool.eq_false_iff.1 visible)

theorem isSpace_of_isDigit {b : UInt8} (h : isDigit b = true) : isSpace b = false := by
  have low : 48 ≤ b := by simpa using (Bool.and_eq_true_iff.1 h).1
  have visible (c : UInt8) (small : c < 48) : b ≠ c := by
    rintro rfl
    exact UInt8.not_lt.2 low small
  simp [isSpace, visible]

namespace Json

section Members

variable {σ : Type} {step : String → σ → Bytes → Except Fault (Parsed σ)}

/-- Members that take a state into another when they are read one after the other. -/
inductive Steps (step : String → σ → Bytes → Except Fault (Parsed σ)) :
    σ → List (String × Json) → σ → Prop where
  | nil (state : σ) : Steps step state [] state
  | cons {state next last : σ} {name : String} {v : Json} {rest : List (String × Json)}
      (head : ∀ s, Delimited s → step name state (colon :: (v.bytes ++ s)) = .ok (next, s))
      (tail : Steps step next rest last) : Steps step state ((name, v) :: rest) last

theorem nextName_written (first : Bool) (name : String) (s : Bytes) :
    nextName first ((if first then [] else [comma]) ++ quote :: (closing name ++ s)) =
      .ok (some (name, s)) := by
  have named : quote ≠ closeObject := by decide
  have goesOn : comma ≠ closeObject := by decide
  cases first with
  | true => simp (disch := decide) [nextName, skipSpace_cons, string_written, named, Except.map]
  | false =>
    simp (disch := decide) [nextName, skipSpace_cons, string_written, goesOn, Except.map]

theorem nextName_closeObject (first : Bool) (s : Bytes) :
    nextName first (closeObject :: s) = .ok none := by
  simp (disch := decide) [nextName, skipSpace_cons]

theorem readColon_colon (s : Bytes) : readColon (colon :: s) = .ok s := by
  simp (disch := decide) [readColon, skipSpace_cons]

theorem delimited_memberBytes (list : List (String × Json)) (s : Bytes) :
    Delimited (memberBytes false list ++ closeObject :: s) := by
  cases list with
  | nil => exact delimited_cons (.inr (.inr rfl))
  | cons entry rest => exact delimited_cons (.inl rfl)

theorem members_of_steps {state last : σ} {list : List (String × Json)}
    (h : Steps step state list last) (first : Bool) {fuel : Nat} (enough : list.length < fuel)
    (s : Bytes) :
    members step fuel first state (memberBytes first list ++ closeObject :: s) =
      .ok (last, closeObject :: s) := by
  induction h generalizing first fuel with
  | nil state =>
    obtain ⟨fuel, rfl⟩ := Nat.exists_eq_succ_of_ne_zero (Nat.ne_of_gt enough)
    rw [memberBytes, List.nil_append, members, nextName_closeObject]
    rfl
  | @cons state next last name v rest head tail ih =>
    obtain ⟨fuel, rfl⟩ := Nat.exists_eq_succ_of_ne_zero (Nat.ne_of_gt (Nat.zero_lt_of_lt enough))
    have left : rest.length < fuel := Nat.lt_of_succ_lt_succ enough
    have stepped := head _ (delimited_memberBytes rest s)
    have shape : memberBytes first ((name, v) :: rest) ++ closeObject :: s =
        (if first then [] else [comma]) ++ quote :: (closing name ++
          colon :: (v.bytes ++ (memberBytes false rest ++ closeObject :: s))) := by
      simp [memberBytes]
    rw [shape, members, nextName_written]
    simp only [bind, Except.bind, stepped]
    exact ih false left

theorem length_le_memberBytes (first : Bool) (list : List (String × Json)) :
    list.length ≤ (memberBytes first list).length := by
  induction list generalizing first with
  | nil => exact Nat.zero_le _
  | cons entry rest ih =>
    have := ih false
    simp only [memberBytes, List.length_append, List.length_cons]
    omega

theorem inObject_of_steps {α : Type} {body : Bytes → Except Fault (Parsed α)} {a : α}
    {state last : σ} {list : List (String × Json)} (h : Steps step state list last)
    (reads : ∀ s s', members step (s.length + 1) true state s = .ok (last, s') →
      body s = .ok (a, s'))
    (s : Bytes) : inObject body (bytes (.object list) ++ s) = .ok (a, s) := by
  have enough : list.length < (memberBytes true list ++ closeObject :: s).length + 1 := by
    have := length_le_memberBytes true list
    rw [List.length_append]
    omega
  have inner := reads _ _ (members_of_steps h true enough s)
  have shape : bytes (.object list) ++ s =
      openObject :: (memberBytes true list ++ closeObject :: s) := by
    simp [bytes_object]
  rw [shape, inObject, List.tail_cons, inner]
  simp (disch := decide) [endObject, skipSpace_cons, bind, Except.bind]

end Members

end Json

namespace Shape

open Json

/-- Within `levels` brackets the reader takes the text of the value for `a`, whatever follows that
cannot belong to it. -/
def Reads {α : Type} (read : Reader α) (v : Json) (a : α) (levels : Nat) : Prop :=
  ∀ depth, levels ≤ depth → ∀ s, Delimited s → read depth (v.bytes ++ s) = .ok (a, s)

section Readers

variable {α β : Type} {read : Reader α} {v : Json} {a : α} {levels : Nat}

theorem Reads.mono (h : Reads read v a levels) {more : Nat} (le : levels ≤ more) :
    Reads read v a more :=
  fun depth enough => h depth (Nat.le_trans le enough)

theorem reads_spelled {expected : String} {meaning : String → Except Cause α} {text : String}
    (h : meaning text = .ok a) : Reads (spelled expected meaning) (.string text) a levels := by
  intro depth _ s _
  simp (disch := decide) [spelled, bytes_string, skipSpace_cons, string_written, h, bind, Except.bind]

theorem reads_string (text : String) : Reads Shape.string (.string text) text levels :=
  reads_spelled rfl

theorem reads_bool (b : Bool) : Reads Shape.bool (.bool b) b levels := by
  intro depth _ s _
  cases b with
  | true =>
    simp (disch := decide) [Shape.bool, bytes_true, skipSpace_cons, word_written, bind, Except.bind]
  | false =>
    simp (disch := decide) [Shape.bool, bytes_false, skipSpace_cons, word_written, bind, Except.bind]

theorem reads_choice {names : List (String × α)} {text : String} (h : names.lookup text = some a) :
    Reads (choice names) (.string text) a levels := by
  intro depth enough s delimited
  have meant : named names text = .ok a := by simp [named, h]
  have read : name names depth (bytes (.string text) ++ s) = .ok (a, s) :=
    reads_spelled meant depth enough s delimited
  rw [bytes_string, List.cons_append] at read ⊢
  rw [choice, skipSpace_cons (by decide)]
  exact read

theorem uint16_digits {d : UInt8} (digit : isDigit d = true) {ds s : Bytes} {m : Number} {n : UInt16}
    (number : Token.number false (d :: ds) = .ok (m, s)) (fits : word16 m = .ok n) (depth : Nat) :
    Shape.uint16 depth (d :: ds) = .ok (n, s) := by
  have notMinus : d ≠ minus := by
    rintro rfl
    exact absurd digit (by decide)
  rw [Shape.uint16, skipSpace_cons (isSpace_of_isDigit digit)]
  simp only [digit, or_true, if_true, if_neg notMinus, number, bind, Except.bind, fits]

theorem word16_toNat (n : UInt16) : word16 (.integer n.toNat) = .ok n := by
  have small : n.toNat < 65536 := n.toNat_lt
  have bound : (0 : Int) ≤ n.toNat ∧ (n.toNat : Int) < 65536 := by omega
  rw [word16, if_pos bound, Int.toNat_natCast, UInt16.ofNat_toNat]

theorem reads_uint16 (n : UInt16) : Reads Shape.uint16 (.number (.integer n.toNat)) n levels := by
  intro depth _ s delimited
  have small : n.toNat < 65536 := n.toNat_lt
  have number := number_written (Nat.lt_trans small (by decide)) false delimited
  obtain ⟨d, ds, bytes, digit, -, -⟩ := digitBytes_cases n.toNat
  rw [bytes, List.cons_append] at number
  rw [bytes_natural, bytes, List.cons_append]
  exact uint16_digits digit number (word16_toNat n) depth

/-- What is written for the value is seen not to be `null` by its first byte. -/
def Present (v : Json) : Prop :=
  ∃ b rest, v.bytes = b :: rest ∧ isSpace b = false ∧ b ≠ 110

theorem present_string (text : String) : Present (.string text) :=
  ⟨quote, closing text, bytes_string text, by decide, by decide⟩

theorem present_object (list : List (String × Json)) : Present (.object list) :=
  ⟨openObject, _, bytes_object list, by decide, by decide⟩

theorem reads_optional (present : Present v) (h : Reads read v a levels) :
    Reads (optional read) v (some a) levels := by
  intro depth enough s delimited
  have inner := h depth enough s delimited
  obtain ⟨b, rest, bytes, visible, notNull⟩ := present
  rw [bytes, List.cons_append] at inner ⊢
  rw [optional, skipSpace_cons visible]
  split
  · next null => exact absurd (List.cons.inj null).1 notNull
  · rw [inner]
    rfl

theorem reads_field (name : String) (needed : Bool) (store : α → β → β)
    (h : Reads read v a levels) : Reads (field name needed read store).read v (store a) levels := by
  intro depth enough s delimited
  simp [field, h depth enough s delimited, bind, Except.bind]

end Readers

section Records

variable {α β : Type} {fields : List (Field α)} {a a' : α} {list : List (String × Json)}
  {levels : Nat}

/-- Members that give fields in the fields' order, and what they make of a record.  Fields that must
be given are. -/
inductive Stores (levels : Nat) : List (Field α) → α → List (String × Json) → α → Prop where
  | nil (a : α) : Stores levels [] a [] a
  | given {f : Field α} {fields : List (Field α)} {a last : α} {v : Json} {update : α → α}
      {rest : List (String × Json)} (reads : Reads f.read v update levels)
      (others : Stores levels fields (update a) rest last) :
      Stores levels (f :: fields) a ((f.name, v) :: rest) last
  | left {f : Field α} {fields : List (Field α)} {a last : α} {list : List (String × Json)}
      (optional : f.needed = false) (others : Stores levels fields a list last) :
      Stores levels (f :: fields) a list last

theorem member_given {all : List (Field α)} {f : Field α} {v : Json} {update : α → α}
    (known : (all.find? fun g => g.name = f.name) = some f) {seen : List String}
    (fresh : f.name ∉ seen) (reads : Reads f.read v update levels) {depth : Nat}
    (enough : levels ≤ depth) (a : α) {s : Bytes} (delimited : Delimited s) :
    member all depth f.name (a, seen) (colon :: (v.bytes ++ s)) =
      .ok ((update a, f.name :: seen), s) := by
  simp [member, known, fresh, readColon_colon, reads depth enough s delimited, bind, Except.bind]

theorem steps_of_stores {all : List (Field α)} (h : Stores levels fields a list a')
    (known : ∀ f ∈ fields, (all.find? fun g => g.name = f.name) = some f)
    (distinct : (fields.map Field.name).Nodup) {depth : Nat} (enough : levels ≤ depth)
    {seen : List String} (fresh : ∀ f ∈ fields, f.name ∉ seen) :
    ∃ seen', Steps (member all depth) (a, seen) list (a', seen') ∧ seen ⊆ seen' ∧
      ∀ f ∈ fields, f.needed = true → f.name ∈ seen' := by
  induction h generalizing seen with
  | nil a => exact ⟨seen, .nil _, List.Subset.refl _, by simp⟩
  | @given f fields a last v update rest reads others ih =>
    obtain ⟨fKnown, othersKnown⟩ := List.forall_mem_cons.1 known
    obtain ⟨fFresh, othersFresh⟩ := List.forall_mem_cons.1 fresh
    rw [List.map_cons, List.nodup_cons] at distinct
    have stillFresh : ∀ g ∈ fields, g.name ∉ f.name :: seen := by
      intro g member
      have different : g.name ≠ f.name := fun same =>
        distinct.1 (same ▸ List.mem_map_of_mem member)
      simpa [different] using othersFresh g member
    obtain ⟨seen', steps, kept, needed⟩ := ih othersKnown distinct.2 stillFresh
    have step := fun s => member_given (s := s) fKnown fFresh reads enough a
    refine ⟨seen', .cons step steps, fun name old => kept (List.mem_cons_of_mem _ old), ?_⟩
    exact List.forall_mem_cons.2 ⟨fun _ => kept List.mem_cons_self, needed⟩
  | @left f fields a last list optional others ih =>
    obtain ⟨-, othersKnown⟩ := List.forall_mem_cons.1 known
    obtain ⟨-, othersFresh⟩ := List.forall_mem_cons.1 fresh
    rw [List.map_cons, List.nodup_cons] at distinct
    obtain ⟨seen', steps, kept, needed⟩ := ih othersKnown distinct.2 othersFresh
    refine ⟨seen', steps, kept, List.forall_mem_cons.2 ⟨fun isNeeded => ?_, needed⟩⟩
    rw [optional] at isNeeded
    cases isNeeded

theorem find?_name_of_mem (distinct : (fields.map Field.name).Nodup) {f : Field α}
    (member : f ∈ fields) : (fields.find? fun g => g.name = f.name) = some f := by
  induction fields with
  | nil => cases member
  | cons head rest ih =>
    rw [List.map_cons, List.nodup_cons] at distinct
    rcases List.mem_cons.1 member with rfl | later
    · exact List.find?_cons_of_pos (by simp)
    · have different : head.name ≠ f.name := fun same =>
        distinct.1 (same ▸ List.mem_map_of_mem later)
      rw [List.find?_cons_of_neg (by simpa using different)]
      exact ih distinct.2 later

theorem reads_record {label : String} {blank : α} (distinct : (fields.map Field.name).Nodup)
    (h : Stores levels fields blank list a) :
    Reads (record label fields blank) (.object list) a (levels + 1) := by
  intro depth enough s _
  obtain ⟨depth, rfl⟩ := Nat.exists_eq_add_of_le' (Nat.le_trans (Nat.le_add_left 1 levels) enough)
  have known : ∀ f ∈ fields, (fields.find? fun g => g.name = f.name) = some f :=
    fun f => find?_name_of_mem distinct
  have fresh : ∀ f ∈ fields, f.name ∉ ([] : List String) := fun f _ => List.not_mem_nil
  obtain ⟨seen, steps, -, needed⟩ :=
    steps_of_stores h known distinct (Nat.le_of_succ_le_succ enough) fresh
  have complete : missing fields seen = none := by
    rw [missing, List.find?_eq_none.2]
    · rfl
    · intro f member
      cases given : f.needed with
      | false => simp
      | true => simp [needed f member given]
  have object : inObject (fromMembers fields blank depth) (bytes (.object list) ++ s) = .ok (a, s) := by
    refine inObject_of_steps steps (fun s s' read => ?_) s
    simp [fromMembers, read, complete, bind, Except.bind]
  rw [bytes_object, List.cons_append] at object ⊢
  have bracket : openObject ≠ openList := by decide
  simp (disch := decide) only [record, skipSpace_cons, or_true, if_true, if_neg bracket, object]

end Records

section Tagged

variable {α : Type} {tag : String} {texts : List (String × String)}

def textMembers (texts : List (String × String)) : List (String × Json) :=
  texts.map fun entry => (entry.1, .string entry.2)

theorem reads_value_string (text : String) : Reads Json.value (.string text) (.string text) 0 := by
  intro depth _ s _
  have read (inner : Option (Bytes → Except Fault (Parsed Json))) :
      Json.valueWith inner (quote :: (closing text ++ s)) = .ok (.string text, s) := by
    have dispatch (rest : Bytes) : Json.valueWith inner (quote :: rest) =
        Token.string rest >>= fun read => .ok (.string read.1, read.2) := rfl
    rw [dispatch, string_written]
    rfl
  rw [bytes_string]
  cases depth with
  | zero => exact read none
  | succ depth => exact read (some (Json.value depth))

theorem taggedMember_tag {variants : List (String × α)} {name : String} {a : α}
    (h : variants.lookup name = some a) (depth : Nat) {s : Bytes} (delimited : Delimited s) :
    taggedMember tag variants depth tag (none, []) (colon :: (bytes (.string name) ++ s)) =
      .ok ((some a, []), s) := by
  have meant : named variants name = .ok a := by simp [named, h]
  have read : Shape.name variants depth (bytes (.string name) ++ s) = .ok (a, s) :=
    reads_spelled meant depth (Nat.zero_le depth) s delimited
  simp [taggedMember, readColon_colon, read, bind, Except.bind]

theorem steps_texts {variants : List (String × α)} (untagged : tag ∉ texts.map Prod.fst)
    (depth : Nat) (chosen : Option α) (done : List (String × Json)) :
    Steps (taggedMember tag variants depth) (chosen, done) (textMembers texts)
      (chosen, (textMembers texts).reverse ++ done) := by
  induction texts generalizing done with
  | nil => exact .nil _
  | cons entry texts ih =>
    obtain ⟨name, text⟩ := entry
    obtain ⟨other, others⟩ := not_or.1 (mt List.mem_cons.2 untagged)
    have kept : (textMembers ((name, text) :: texts)).reverse ++ done =
        (textMembers texts).reverse ++ (name, .string text) :: done := by
      simp [textMembers]
    rw [kept]
    refine .cons (fun s delimited => ?_) (ih others _)
    have read := reads_value_string text depth (Nat.zero_le depth) s delimited
    simp [taggedMember, Ne.symm other, readColon_colon, read, bind, Except.bind]

theorem gatherMembers_texts {fields : List String} {given : List (String × String)}
    (known : ∀ entry ∈ texts, entry.1 ∈ fields)
    (distinct : ((texts ++ given).map Prod.fst).Nodup) :
    gatherMembers fields given (textMembers texts) = .ok (texts.reverse ++ given) := by
  induction texts generalizing given with
  | nil => rfl
  | cons entry texts ih =>
    obtain ⟨name, text⟩ := entry
    obtain ⟨first, others⟩ := List.forall_mem_cons.1 known
    have moved : ((texts ++ (name, text) :: given).map Prod.fst).Nodup :=
      ((List.perm_middle.map Prod.fst).nodup_iff).2 distinct
    rw [List.cons_append, List.map_cons, List.nodup_cons] at distinct
    have fresh : given.lookup name = none := by
      refine List.lookup_eq_none_iff.2 fun old member => ?_
      have different : name ≠ old.1 := fun same =>
        distinct.1 (List.mem_map.2 ⟨old, List.mem_append_right _ member, same.symm⟩)
      simpa using different
    have read : textMembers ((name, text) :: texts) = (name, .string text) :: textMembers texts := rfl
    rw [read, gatherMembers, if_pos (by simpa using first), fresh]
    simp [textOf, bind, Except.bind, ih others moved]

theorem mapM_eq_ok_map {β γ : Type} {f : β → Except γ α} {g : β → α} {list : List β}
    (h : ∀ b ∈ list, f b = .ok (g b)) : list.mapM f = .ok (list.map g) := by
  induction list with
  | nil => rfl
  | cons b list ih =>
    obtain ⟨first, others⟩ := List.forall_mem_cons.1 h
    rw [List.mapM_cons, first, ih others]
    rfl

theorem ofContent_texts {variant : Variant α} (fields : variant.fields = texts.map Prod.fst)
    (distinct : (texts.map Prod.fst).Nodup) :
    variant.ofContent (.members (textMembers texts)) = .ok (variant.make (texts.map Prod.snd)) := by
  have gathered : gatherMembers variant.fields [] (textMembers texts) = .ok texts.reverse := by
    have all : ∀ entry ∈ texts, entry.1 ∈ variant.fields := fun entry member =>
      fields ▸ List.mem_map_of_mem member
    rw [← List.append_nil texts.reverse]
    exact gatherMembers_texts all (by simpa using distinct)
  have found : ∀ entry ∈ texts, texts.reverse.lookup entry.1 = some entry.2 := by
    intro entry member
    have reversed : (texts.reverse.map Prod.fst).Nodup := by
      rw [List.map_reverse]
      exact List.nodup_reverse.2 distinct
    exact (lookup_eq_some_iff_mem reversed).2 (List.mem_reverse.2 member)
  rw [Variant.ofContent, gathered, fields]
  simp only [bind, Except.bind]
  rw [List.mapM_map, mapM_eq_ok_map (g := Prod.snd) fun entry member => by simp [found entry member]]

theorem reads_tagged (label : String) (texts : List (String × String)) {name : String}
    {variants : List (String × Variant α)} {variant : Variant α}
    (chosen : variants.lookup name = some variant) (fields : variant.fields = texts.map Prod.fst)
    (distinct : (tag :: texts.map Prod.fst).Nodup) :
    Reads (tagged label tag variants) (.object ((tag, .string name) :: textMembers texts))
      (variant.make (texts.map Prod.snd)) 1 := by
  intro depth enough s _
  obtain ⟨depth, rfl⟩ := Nat.exists_eq_succ_of_ne_zero (Nat.ne_of_gt enough)
  rw [List.nodup_cons] at distinct
  have steps : Steps (taggedMember tag variants depth) (none, [])
      ((tag, .string name) :: textMembers texts) (some variant, (textMembers texts).reverse ++ []) :=
    .cons (fun s delimited => taggedMember_tag chosen depth delimited)
      (steps_texts distinct.1 depth (some variant) [])
  have object : inObject (taggedMembers tag variants depth)
      (bytes (.object ((tag, .string name) :: textMembers texts)) ++ s) =
      .ok ((variant, .members (textMembers texts)), s) := by
    refine inObject_of_steps steps (fun s s' read => ?_) s
    simp [taggedMembers, read, bind, Except.bind]
  rw [bytes_object, List.cons_append] at object ⊢
  have bracket : openObject ≠ openList := by decide
  simp (disch := decide) only [tagged, skipSpace_cons, or_true, if_true, if_neg bracket, object,
    bind, Except.bind, ofContent_texts fields distinct.2]

end Tagged

end Shape

theorem Json.whole_of_reads {α : Type} {read : Reader α} {v : Json} {a : α} {levels : Nat}
    (h : Shape.Reads read v a levels) (shallow : levels ≤ Json.maxDepth) :
    Json.whole read v.bytes = .ok a := by
  have all := h Json.maxDepth shallow [] delimited_nil
  rw [List.append_nil] at all
  rw [Json.whole, all]
  rfl

end SchemaGate

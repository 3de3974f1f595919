import Mathlib
import SchemaGate.Template

/-!
# Substitution

An expression is cut in one way only, into characters that stand for themselves and names in braces.  Main
statement: rendering puts the values in place of the names, all at once, or names the fault of the leftmost
placeholder that has one.
-/

namespace SchemaGate.Template

/-- A part of an expression as it is written: a character that stands for itself, or a name in braces. -/
inductive Segment where
  | literal (char : Char)
  | placeholder (name : List Char)
deriving DecidableEq, Repr

namespace Segment

def written : Segment → List Char
  | literal c => [c]
  | placeholder name => openBrace :: (name ++ [closeBrace])

/-- No character that stands for itself opens a placeholder, and a name goes no further than to the next
closing brace.  It may hold opening ones. -/
def Proper : Segment → Prop
  | literal c => c ≠ openBrace
  | placeholder name => closeBrace ∉ name

def Unnamed : Segment → Prop
  | literal _ => False
  | placeholder name => trimChars name = []

/-- What stands in its place in the rendering; a name without a value leaves nothing. -/
def filled (value? : String → Option String) : Segment → List Char
  | literal c => [c]
  | placeholder name => ((value? (String.ofList (trimChars name))).getD "").toList

def piece : Segment → Piece
  | literal c => .literal c
  | placeholder name => .value (String.ofList (trimChars name))

theorem fill_piece (value? : String → Option String) (segment : Segment) :
    fill value? segment.piece = segment.filled value? := by
  cases segment <;> rfl

end Segment

/-- The text as it is written in segments, up to a placeholder that is never closed, if there is one. -/
structure Cut (text : List Char) (segments : List Segment) (unclosed? : Option (List Char)) : Prop where
  text_eq : text = segments.flatMap Segment.written ++
    (unclosed?.map fun name => openBrace :: name).getD []
  proper : ∀ segment ∈ segments, segment.Proper
  unclosed : ∀ name, unclosed? = some name → closeBrace ∉ name

/-- The fault of the leftmost placeholder that has one; a placeholder that is never closed is the last. -/
inductive Offends (segments : List Segment) (unclosed? : Option (List Char)) : TemplateFault → Prop where
  | unnamed {before after : List Segment} {segment : Segment}
      (cut : segments = before ++ segment :: after) (sound : ∀ earlier ∈ before, ¬ earlier.Unnamed)
      (blank : segment.Unnamed) : Offends segments unclosed? .emptyPlaceholder
  | unclosed (left : unclosed?.isSome = true) (sound : ∀ segment ∈ segments, ¬ segment.Unnamed) :
      Offends segments unclosed?
        (.unterminated (String.ofList (segments.flatMap Segment.written)).utf8ByteSize)

section Cutting

variable {text : List Char} {segments : List Segment} {unclosed? : Option (List Char)}

theorem Cut.cons {segment : Segment} (proper : segment.Proper) (cut : Cut text segments unclosed?) :
    Cut (segment.written ++ text) (segment :: segments) unclosed? where
  text_eq := by rw [cut.text_eq, List.flatMap_cons, List.append_assoc]
  proper := by
    intro other member
    rcases List.mem_cons.1 member with rfl | later
    · exact proper
    · exact cut.proper other later
  unclosed := cut.unclosed

theorem exists_cut (text : List Char) : ∃ segments unclosed?, Cut text segments unclosed? := by
  induction size : text.length using Nat.strong_induction_on generalizing text with
  | h n ih =>
    cases text with
    | nil => exact ⟨[], none, rfl, by simp, by simp⟩
    | cons c rest =>
      rw [List.length_cons] at size
      by_cases opens : c = openBrace
      · by_cases closes : closeBrace ∈ rest
        · -- The name ends at the first closing brace, and what follows is shorter.
          obtain ⟨name, after, split, proper⟩ := List.eq_append_cons_of_mem closes
          have shorter : after.length < n := by
            have := congrArg List.length split
            rw [List.length_append, List.length_cons] at this
            omega
          obtain ⟨segments, unclosed?, cut⟩ := ih _ shorter after rfl
          refine ⟨.placeholder name :: segments, unclosed?, ?_⟩
          have written : c :: rest = (Segment.placeholder name).written ++ after := by
            simp [Segment.written, opens, split]
          rw [written]
          exact cut.cons proper
        · exact ⟨[], some rest, by simp [opens], by simp, fun name same =>
            Option.some.inj same ▸ closes⟩
      · obtain ⟨segments, unclosed?, cut⟩ := ih rest.length (by omega) rest rfl
        have proper : (Segment.literal c).Proper := opens
        exact ⟨.literal c :: segments, unclosed?, cut.cons proper⟩

theorem Cut.uncons {segment : Segment} (cut : Cut text (segment :: segments) unclosed?) :
    segment.Proper ∧ ∃ rest, text = segment.written ++ rest ∧ Cut rest segments unclosed? := by
  refine ⟨cut.proper segment (by simp), _, ?_, rfl, fun other later => cut.proper other (by simp [later]),
    cut.unclosed⟩
  rw [cut.text_eq, List.flatMap_cons, List.append_assoc]

theorem Cut.ne_written_append {segment : Segment} (cut : Cut text [] unclosed?)
    (proper : segment.Proper) (rest : List Char) : text ≠ segment.written ++ rest := by
  intro same
  have left := cut.text_eq
  rw [same] at left
  cases unclosed? with
  | none => cases segment <;> simp [Segment.written] at left
  | some name =>
    cases segment with
    | literal c => exact proper (by simpa [Segment.written] using congrArg List.head? left)
    | placeholder other =>
      have closed : name = other ++ closeBrace :: rest := by
        simpa [Segment.written] using left.symm
      exact cut.unclosed name rfl (by simp [closed])

theorem takeWhile_name {name : List Char} (proper : closeBrace ∉ name) (rest : List Char) :
    (name ++ closeBrace :: rest).takeWhile (fun c => c ≠ closeBrace) = name := by
  rw [List.takeWhile_append_of_pos]
  · simp
  · intro c member
    simpa using fun same : c = closeBrace => proper (same ▸ member)

theorem Segment.written_append_inj {a b : Segment} {x y : List Char} (ha : a.Proper) (hb : b.Proper)
    (h : a.written ++ x = b.written ++ y) : a = b ∧ x = y := by
  cases a with
  | literal c =>
    cases b with
    | literal d => simpa [written] using h
    | placeholder name => exact absurd (by simpa [written] using congrArg List.head? h) ha
  | placeholder name =>
    cases b with
    | literal d => exact absurd (by simpa [written] using (congrArg List.head? h).symm) hb
    | placeholder other =>
      have split : name ++ closeBrace :: x = other ++ closeBrace :: y := by simpa [written] using h
      have names := congrArg (List.takeWhile fun c => c ≠ closeBrace) split
      rw [takeWhile_name ha, takeWhile_name hb] at names
      subst names
      exact ⟨rfl, by simpa using split⟩

theorem Cut.unique {others : List Segment} {other? : Option (List Char)}
    (cut : Cut text segments unclosed?) (also : Cut text others other?) :
    others = segments ∧ other? = unclosed? := by
  induction segments generalizing text others with
  | nil =>
    cases others with
    | nil =>
      have same := also.text_eq.symm.trans cut.text_eq
      refine ⟨rfl, ?_⟩
      cases other? <;> cases unclosed? <;> simp_all
    | cons segment others =>
      obtain ⟨proper, rest, starts, -⟩ := also.uncons
      exact absurd starts (cut.ne_written_append proper rest)
  | cons segment segments ih =>
    obtain ⟨proper, rest, starts, tail⟩ := cut.uncons
    cases others with
    | nil => exact absurd starts (also.ne_written_append proper rest)
    | cons other others =>
      obtain ⟨properOther, restOther, startsOther, tailOther⟩ := also.uncons
      obtain ⟨rfl, rfl⟩ := Segment.written_append_inj proper properOther (starts.symm.trans startsOther)
      obtain ⟨rfl, same⟩ := ih tail tailOther
      exact ⟨rfl, same⟩

end Cutting

section Reading

variable {text : List Char} {segments : List Segment} {unclosed? : Option (List Char)} {offset : Nat}

theorem piecesFrom_name {name : List Char} (proper : closeBrace ∉ name) (p : Unclosed)
    (rest : List Char) :
    piecesFrom offset (some p) (name ++ rest) =
      piecesFrom (offset + String.utf8Len name) (some ⟨p.start, name.reverse ++ p.name⟩) rest := by
  induction name generalizing offset p with
  | nil => rfl
  | cons c name ih =>
    have goesOn : c ≠ closeBrace := fun same => proper (by simp [same])
    have later : closeBrace ∉ name := fun member => proper (by simp [member])
    rw [List.cons_append, piecesFrom, if_neg goesOn, ih later, String.utf8Len_cons]
    simp [Nat.add_assoc, Nat.add_comm c.utf8Size]

theorem piecesFrom_written_of_unnamed {segment : Segment} (proper : segment.Proper)
    (unnamed : segment.Unnamed) (rest : List Char) :
    piecesFrom offset none (segment.written ++ rest) = .error .emptyPlaceholder := by
  cases segment with
  | literal c => exact absurd unnamed id
  | placeholder name =>
    have blank : trimChars name = [] := unnamed
    simp only [Segment.written, List.cons_append, List.append_assoc, piecesFrom, if_true,
      piecesFrom_name proper, List.append_nil, List.reverse_reverse, blank, List.nil_append]

theorem piecesFrom_written {segment : Segment} (proper : segment.Proper)
    (named : ¬ segment.Unnamed) (rest : List Char) :
    piecesFrom offset none (segment.written ++ rest) =
      (piecesFrom (offset + String.utf8Len segment.written) none rest).map (segment.piece :: ·) := by
  cases segment with
  | literal c =>
    have plain : c ≠ openBrace := proper
    simp only [Segment.written, List.cons_append, List.nil_append, piecesFrom, if_neg plain,
      String.utf8Len_cons, String.utf8Len_nil, Nat.zero_add, Segment.piece]
    rfl
  | placeholder name =>
    have kept : trimChars name ≠ [] := named
    simp only [Segment.written, List.cons_append, List.append_assoc, piecesFrom, if_true,
      piecesFrom_name proper, List.append_nil, List.reverse_reverse, List.nil_append,
      String.utf8Len_cons, String.utf8Len_append, String.utf8Len_nil, Nat.zero_add, Segment.piece]
    have sizes : offset + openBrace.utf8Size + String.utf8Len name + closeBrace.utf8Size =
        offset + (String.utf8Len name + closeBrace.utf8Size + openBrace.utf8Size) := by omega
    rw [sizes]
    cases trimmed : trimChars name with
    | nil => exact absurd trimmed kept
    | cons c cs => rfl

theorem piecesFrom_of_sound (cut : Cut text segments unclosed?)
    (sound : ∀ segment ∈ segments, ¬ segment.Unnamed) :
    piecesFrom offset none text =
      unclosed?.elim (.ok (segments.map Segment.piece)) fun _ =>
        .error (.unterminated (offset + String.utf8Len (segments.flatMap Segment.written))) := by
  induction segments generalizing text offset with
  | nil =>
    rw [cut.text_eq]
    cases unclosed? with
    | none => rfl
    | some name =>
      -- Nothing closes the placeholder, so its name takes all that is left.
      have opened (offset : Nat) (p : Unclosed) :
          piecesFrom offset (some p) name = .error (.unterminated p.start) := by
        rw [← List.append_nil name, piecesFrom_name (cut.unclosed name rfl)]
        rfl
      simp [piecesFrom, opened]
  | cons segment segments ih =>
    obtain ⟨proper, rest, rfl, tail⟩ := cut.uncons
    have later := fun other member => sound other (List.mem_cons_of_mem segment member)
    rw [piecesFrom_written proper (sound segment (by simp)), ih tail later]
    cases unclosed? with
    | none => rfl
    | some name => simp [Except.map, List.flatMap_cons, String.utf8Len_append, Nat.add_assoc]

theorem piecesFrom_of_unnamed {before after : List Segment} {segment : Segment}
    (cut : Cut text (before ++ segment :: after) unclosed?)
    (sound : ∀ earlier ∈ before, ¬ earlier.Unnamed) (unnamed : segment.Unnamed) :
    piecesFrom offset none text = .error .emptyPlaceholder := by
  induction before generalizing text offset with
  | nil =>
    obtain ⟨proper, rest, rfl, -⟩ := cut.uncons
    exact piecesFrom_written_of_unnamed proper unnamed rest
  | cons earlier before ih =>
    obtain ⟨proper, rest, rfl, tail⟩ := cut.uncons
    have later := fun other member => sound other (List.mem_cons_of_mem earlier member)
    rw [piecesFrom_written proper (sound earlier (by simp)), ih tail later]
    rfl

end Reading

section Pieces

variable {expression : String} {segments : List Segment} {unclosed? : Option (List Char)}

theorem pieces_of_sound (cut : Cut expression.toList segments unclosed?) (closed : unclosed? = none)
    (sound : ∀ segment ∈ segments, ¬ segment.Unnamed) :
    pieces expression = .ok (segments.map Segment.piece) := by
  rw [pieces, piecesFrom_of_sound cut sound, closed, Option.elim_none]

theorem pieces_of_offends (cut : Cut expression.toList segments unclosed?) {fault : TemplateFault}
    (offends : Offends segments unclosed? fault) : pieces expression = .error fault := by
  cases offends with
  | unnamed split sound blank =>
    subst split
    exact piecesFrom_of_unnamed cut sound blank
  | unclosed left sound =>
    obtain ⟨name, rfl⟩ := Option.isSome_iff_exists.1 left
    rw [pieces, piecesFrom_of_sound cut sound, Option.elim_some, String.utf8ByteSize_ofList,
      Nat.zero_add]

theorem exists_leftmost_unnamed {segment : Segment} (member : segment ∈ segments)
    (unnamed : segment.Unnamed) :
    ∃ before segment after, segments = before ++ segment :: after ∧
      (∀ earlier ∈ before, ¬ earlier.Unnamed) ∧ segment.Unnamed := by
  induction segments with
  | nil => simp at member
  | cons first rest ih =>
    by_cases blank : first.Unnamed
    · exact ⟨[], first, rest, rfl, by simp, blank⟩
    · have later : segment ∈ rest := by
        rcases List.mem_cons.1 member with rfl | later
        · exact absurd unnamed blank
        · exact later
      obtain ⟨before, found, after, rfl, sound, named⟩ := ih later
      refine ⟨first :: before, found, after, rfl, fun earlier member => ?_, named⟩
      rcases List.mem_cons.1 member with rfl | member
      · exact blank
      · exact sound earlier member

/-- A placeholder has a fault, or every one is closed and names something. -/
theorem offends_or_sound (segments : List Segment) (unclosed? : Option (List Char)) :
    (∃ fault, Offends segments unclosed? fault) ∨
      unclosed? = none ∧ ∀ segment ∈ segments, ¬ segment.Unnamed := by
  by_cases sound : ∀ segment ∈ segments, ¬ segment.Unnamed
  · cases unclosed? with
    | none => exact .inr ⟨rfl, sound⟩
    | some name => exact .inl ⟨_, .unclosed rfl sound⟩
  · push Not at sound
    obtain ⟨segment, member, unnamed⟩ := sound
    obtain ⟨before, first, after, split, earlier, blank⟩ := exists_leftmost_unnamed member unnamed
    exact .inl ⟨_, .unnamed split earlier blank⟩

theorem flatMap_fill_pieces (value? : String → Option String) (segments : List Segment) :
    (segments.map Segment.piece).flatMap (fill value?) = segments.flatMap (Segment.filled value?) := by
  rw [List.flatMap_map]
  exact List.flatMap_congr fun segment _ => segment.fill_piece value?

theorem render_eq_ok_iff (cut : Cut expression.toList segments unclosed?)
    (value? : String → Option String) (text : String) :
    render value? expression = .ok text ↔
      unclosed? = none ∧ (∀ segment ∈ segments, ¬ segment.Unnamed) ∧
        text = String.ofList (segments.flatMap (Segment.filled value?)) := by
  rcases offends_or_sound segments unclosed? with ⟨fault, offends⟩ | ⟨closed, sound⟩
  · have fails := pieces_of_offends cut offends
    refine ⟨fun ok => by simp [render, fails] at ok, fun ⟨closed, sound, _⟩ => ?_⟩
    rw [pieces_of_sound cut closed sound] at fails
    cases fails
  · simp only [render, pieces_of_sound cut closed sound, flatMap_fill_pieces, Except.ok.injEq]
    exact ⟨fun same => ⟨closed, sound, same.symm⟩, fun ⟨_, _, same⟩ => same.symm⟩

theorem render_eq_error_iff (cut : Cut expression.toList segments unclosed?)
    (value? : String → Option String) (error : TemplateError) :
    render value? expression = .error error ↔
      ∃ fault, Offends segments unclosed? fault ∧ error = .invalidExpression expression fault := by
  constructor
  · intro fails
    rcases offends_or_sound segments unclosed? with ⟨fault, offends⟩ | ⟨closed, sound⟩
    · refine ⟨fault, offends, ?_⟩
      simpa [render, pieces_of_offends cut offends] using fails.symm
    · simp [render, pieces_of_sound cut closed sound] at fails
  · rintro ⟨fault, offends, rfl⟩
    simp [render, pieces_of_offends cut offends]

theorem evaluate_eq_ok_none_iff (value? : String → Option String) :
    evaluate value? expression = .ok none ↔ render value? expression = .ok "" := by
  unfold evaluate
  cases render value? expression with
  | error error => simp [bind, Except.bind]
  | ok text => simp [bind, Except.bind]

end Pieces

/-- An expression is cut in one way.  If no placeholder has a fault, its rendering is what stands outside
the placeholders, with the values of the names between; the values are not looked into.  Otherwise there is
no rendering, whatever the attributes are, and the leftmost fault is reported.  An expression has no value
exactly when it is rendered as nothing. -/
theorem render_substitutes (expression : String) :
    ∃ segments unclosed?, Cut expression.toList segments unclosed? ∧
      (∀ others other?, Cut expression.toList others other? →
        others = segments ∧ other? = unclosed?) ∧
      (∀ (attributes : Attributes) text, attributes.render expression = .ok text ↔
        unclosed? = none ∧ (∀ segment ∈ segments, ¬ segment.Unnamed) ∧
          text = String.ofList (segments.flatMap (Segment.filled attributes.get?))) ∧
      (∀ (attributes : Attributes) error, attributes.render expression = .error error ↔
        ∃ fault, Offends segments unclosed? fault ∧ error = .invalidExpression expression fault) ∧
      (∀ attributes : Attributes, attributes.evaluator expression = .ok none ↔
        attributes.render expression = .ok "") ∧
      TemplateFault.emptyPlaceholder.reason = "empty placeholder" ∧
      ∀ start, (TemplateFault.unterminated start).reason =
        "unterminated placeholder at byte " ++ toString start := by
  obtain ⟨segments, unclosed?, cut⟩ := exists_cut expression.toList
  exact ⟨segments, unclosed?, cut, fun others other? also => cut.unique also,
    fun attributes text => render_eq_ok_iff cut attributes.get? text,
    fun attributes error => render_eq_error_iff cut attributes.get? error,
    fun attributes => evaluate_eq_ok_none_iff attributes.get?, rfl, fun start => rfl⟩

example :
    let attributes : Attributes :=
      (NameMap.empty.insert "a" "\x7bb\x7d").insert "x\x7by" "1"
    attributes.render "é\x7d\x7b a \x7d\x7bx\x7by\x7d\x7bb\x7d" = .ok "é\x7d\x7bb\x7d1" ∧
      attributes.render "é\x7d\x7ba\x7d\x7bb" =
        .error (.invalidExpression "é\x7d\x7ba\x7d\x7bb" (.unterminated 6)) := by
  decide +kernel

end SchemaGate.Template

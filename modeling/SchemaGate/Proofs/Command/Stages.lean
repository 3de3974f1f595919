import SchemaGate.Proofs.Command.Framing
import SchemaGate.Proofs.Gate.Isolation
import SchemaGate.Proofs.Gate.Agreement

/-!
# Stages of a check

A check reads its configuration and builds the policy, and then accepts a payload, attributes and a
registry.  Main statement: a check that gets through these stages is a single call of the policy, and
nothing but what that call comes back with and what it leaves recorded is reported.
-/

namespace SchemaGate.Command

def Builds (files : Files) (path : String) (p : Policy) : Prop :=
  ∃ c, loadConfiguration files path = .ok c ∧ Policy.ofConfiguration c = .ok p

/-- What a check has accepted by the time it sends its payload. -/
structure Accepted (files : Files) (request : CheckRequest) (p : Policy) (payload : Bytes)
    (attributes : Attributes) (resources : Resources) : Prop where
  builds : Builds files request.config p
  payload : payloadBytes files request.payload? = .ok payload
  attributes : ∃ pairs, request.attributes.mapM readAttribute = .ok pairs ∧
    NameMap.ofList pairs = attributes
  resources : loadResources files request = .ok resources

/-- The call that a check makes for its payload at a surface; for the broker's surfaces, the payload has
to be framed before. -/
def CheckRequest.call (request : CheckRequest) (attributes : Attributes) (payload : Bytes) :
    Surface → Except CommandError Call
  | .body direction => .ok (.body direction payload)
  | .message direction => .ok (.message direction { content := payload, attributes })
  | .content direction => .ok (.content direction { chunks := [payload] })
  | .publish => (singleRecord request payload).map fun set =>
    .publish (produceRequest request set) (request.recordMessage payload)
  | .subscribe => (singleRecord request payload).map fun set =>
    .subscribe (fetchResponse request set) (request.recordMessage payload)

def bodyFinding : BodyOutcome → Finding
  | .pass => .passed
  | .interrupt failure => .answered failure

def messageFinding : MessageOutcome → Finding
  | .forward _ => .passed
  | .interrupt failure => .answered failure

def contentFinding : ContentOutcome → Finding
  | .skipped => .skipped
  | .forward _ => .passed
  | .fail failure => .answered failure

def publishFinding : PublishOutcome → Finding
  | .accept _ => .passed
  | .interrupt response kind => .rejected kind (refusedPartitions response)

def subscribeFinding (response : Broker.FetchResponse) : SubscribeOutcome → Finding
  | .accept _ => .passed
  | .interrupt kind => .rejected kind (spoiledPartitions response)

def finding : Answer → Except PolicyError Finding
  | .body result => result.map bodyFinding
  | .message result => result.map messageFinding
  | .content result => result.map contentFinding
  | .publish result => result.map publishFinding
  | .subscribe result response => result.map (subscribeFinding response)

/-- The report on what has been found and recorded, or the error that stands in for a finding. -/
def reportOf (surface : Surface) (result : Except PolicyError Finding) (recorded? : Option String) :
    Except CommandError CheckReport := do
  let found ← result.mapError (.phaseFailed surface)
  .ok ⟨surface, found, recorded?⟩

variable {files : Files} {request : CheckRequest} {p : Policy} {payload : Bytes}
  {attributes : Attributes} {resources : Resources}

theorem runSurface_eq (p : Policy) (host : Host) (request : CheckRequest) (attributes : Attributes)
    (payload : Bytes) :
    runSurface p host request attributes payload = (do
      let c ← request.call attributes payload request.surface
      let found ← (finding (p.call host c {}).1).mapError (.phaseFailed request.surface)
      .ok (found, (p.call host c {}).2)) := by
  unfold runSurface
  cases surface : request.surface with
  | body direction =>
    dsimp only [CheckRequest.call, bind, Except.bind, Policy.call, finding]
    rcases (p.onBody host direction payload {}).1 with error | _ | failure <;> rfl
  | message direction =>
    dsimp only [CheckRequest.call, bind, Except.bind, Policy.call, finding]
    rcases (p.onMessage host direction { content := payload, attributes } {}).1 with
      error | message | failure <;> rfl
  | content direction =>
    dsimp only [CheckRequest.call, bind, Except.bind, Policy.call, finding]
    rcases (p.onContent host direction { chunks := [payload] } {}).1 with
      error | _ | body | failure <;> rfl
  | publish =>
    dsimp only [CheckRequest.call]
    cases framed : singleRecord request payload with
    | error error => rfl
    | ok set =>
      dsimp only [bind, Except.bind, Except.map, Policy.call, finding]
      -- The record is read back as the message of the call, so neither fault of reading comes up.
      rw [messages_produceRequest framed, firstMessage]
      dsimp only
      rcases (p.onPublish host (produceRequest request set) (request.recordMessage payload) {}).1 with
        error | message | ⟨response, kind⟩ <;> rfl
  | subscribe =>
    dsimp only [CheckRequest.call]
    cases framed : singleRecord request payload with
    | error error => rfl
    | ok set =>
      dsimp only [bind, Except.bind, Except.map, Policy.call, finding]
      rw [messages_fetchResponse framed, firstMessage]
      dsimp only
      rcases (p.onSubscribe host (fetchResponse request set) (request.recordMessage payload) {}).1 with
        error | message | kind <;> rfl

theorem check_of_accepted (accepted : Accepted files request p payload attributes resources) :
    check files request = (do
      let c ← request.call attributes payload request.surface
      let ends := p.call (Host.ofAttributes resources attributes) c {}
      reportOf request.surface (finding ends.1) ends.2.recorded?) := by
  obtain ⟨⟨c, loaded, built⟩, given, ⟨pairs, named, rfl⟩, registered⟩ := accepted
  have policy := (@mapError_eq_ok_iff _ _ _ _ CommandError.policyInvalid _).2 built
  simp only [check, loaded, policy, given, named, registered, runSurface_eq, bind, Except.bind]
  cases request.call (NameMap.ofList pairs) payload request.surface with
  | error error => rfl
  | ok c =>
    dsimp only [reportOf]
    cases finding (p.call (Host.ofAttributes resources (NameMap.ofList pairs)) c {}).1 <;> rfl

theorem steady_of_loadResources (h : loadResources files request = .ok resources) :
    resources.Steady := by
  intro name service known subject
  unfold loadResources at h
  split at h
  · obtain rfl := Except.ok.inj h
    cases known
  · next path directory =>
    obtain ⟨registry, -, loaded⟩ := bind_eq_ok_iff.1 h
    obtain rfl := Except.ok.inj loaded
    obtain rfl : registry.service = service := by
      have found := known
      rw [NameMap.get?_ofList, List.reverse_singleton, lookup_entry] at found
      split at found
      · exact Option.some.inj found
      · cases found
    exact Awaited.settles_done _

section Sent

variable {surface : Surface} {c : Call}

theorem exists_call (request : CheckRequest) (attributes : Attributes) {payload : Bytes}
    (framed : surface = .publish ∨ surface = .subscribe →
      ∃ set, singleRecord request payload = .ok set) :
    ∃ c, request.call attributes payload surface = .ok c := by
  cases surface with
  | body direction => exact ⟨_, rfl⟩
  | message direction => exact ⟨_, rfl⟩
  | content direction => exact ⟨_, rfl⟩
  | publish =>
    obtain ⟨set, single⟩ := framed (.inl rfl)
    exact ⟨_, map_eq_ok_iff.2 ⟨set, single, rfl⟩⟩
  | subscribe =>
    obtain ⟨set, single⟩ := framed (.inr rfl)
    exact ⟨_, map_eq_ok_iff.2 ⟨set, single, rfl⟩⟩

theorem carries_of_call (sent : request.call attributes payload surface = .ok c) :
    c.Carries payload := by
  cases surface with
  | body direction =>
    obtain rfl := Except.ok.inj sent
    rfl
  | message direction =>
    obtain rfl := Except.ok.inj sent
    rfl
  | content direction =>
    obtain rfl := Except.ok.inj sent
    exact List.append_nil payload
  | publish =>
    obtain ⟨set, -, rfl⟩ := map_eq_ok_iff.1 sent
    rfl
  | subscribe =>
    obtain ⟨set, -, rfl⟩ := map_eq_ok_iff.1 sent
    rfl

theorem seeks_of_call (sent : request.call attributes payload surface = .ok c)
    (used : p.idle? c = none) : p.Seeks c := by
  by_contra unsought
  obtain ⟨direction, body, rfl, -, stalls⟩ := Policy.stalls_of_not_seeks used unsought
  cases surface with
  | body direction => cases Except.ok.inj sent
  | message direction => cases Except.ok.inj sent
  | content direction =>
    cases Except.ok.inj sent
    cases stalls
  | publish =>
    obtain ⟨set, -, other⟩ := map_eq_ok_iff.1 sent
    cases other
  | subscribe =>
    obtain ⟨set, -, other⟩ := map_eq_ok_iff.1 sent
    cases other

theorem idle_cases_of_call {answer : Answer}
    (sent : request.call attributes payload surface = .ok c) (idle : p.idle? c = some answer) :
    (∃ direction, surface = .content direction ∧ p.scope ≠ direction ∧
      finding answer = .ok .skipped) ∨
    (surface = .publish ∧ p.publish? = none ∧
      finding answer = .error (Policy.unconfigured "onPublish")) ∨
    (surface = .subscribe ∧ p.subscribe? = none ∧
      finding answer = .error (Policy.unconfigured "onSubscribe")) := by
  cases surface with
  | body direction =>
    obtain rfl := Except.ok.inj sent
    cases idle
  | message direction =>
    obtain rfl := Except.ok.inj sent
    cases idle
  | content direction =>
    obtain rfl := Except.ok.inj sent
    obtain ⟨inactive, rfl⟩ : ¬ p.scope = direction ∧ Answer.content (.ok .skipped) = answer := by
      simpa [Policy.idle?] using idle
    exact .inl ⟨direction, rfl, inactive, rfl⟩
  | publish =>
    obtain ⟨set, -, rfl⟩ := map_eq_ok_iff.1 sent
    obtain ⟨unhandled, rfl⟩ : p.publish? = none ∧
        Answer.publish (.error (Policy.unconfigured "onPublish")) = answer := by
      simpa [Policy.idle?] using idle
    exact .inr (.inl ⟨rfl, unhandled, rfl⟩)
  | subscribe =>
    obtain ⟨set, -, rfl⟩ := map_eq_ok_iff.1 sent
    obtain ⟨unhandled, rfl⟩ : p.subscribe? = none ∧
        Answer.subscribe (.error (Policy.unconfigured "onSubscribe")) (fetchResponse request set) =
          answer := by
      simpa [Policy.idle?] using idle
    exact .inr (.inr ⟨rfl, unhandled, rfl⟩)

theorem finds_of_call (sent : request.call attributes payload surface = .ok c)
    (loaded : loadResources files request = .ok resources) (used : p.idle? c = none) :
    p.Seeks c ∧ ∃ found, p.Finds (Host.ofAttributes resources attributes)
      (c.engine (Host.ofAttributes resources attributes)) {} found := by
  have steady := steady_of_loadResources loaded
  have prompt (host : Host) : ∃ evaluate : Evaluator, c.engine host = { evaluate } := by
    cases c <;> exact ⟨_, rfl⟩
  obtain ⟨evaluate, engine⟩ := prompt (.ofAttributes resources attributes)
  obtain ⟨found, ends⟩ := (steady.settles_seek p.resolver evaluate).exists_raced?
  rw [engine]
  exact ⟨seeks_of_call sent used, found, rfl, ends⟩

end Sent

end SchemaGate.Command

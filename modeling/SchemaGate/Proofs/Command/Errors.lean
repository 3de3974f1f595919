import SchemaGate.Proofs.Command.Stages

/-!
# Errors by stage

Each stage of a check has errors of its own.  Main statement: what a check ends with if it does not come to a
report, and that no check ends for want of a message that it has framed itself.
-/

namespace SchemaGate.Command

/-- The stages of a check at which it can end with an error. -/
inductive Stage where
  | configuration
  | policy
  | payload
  | attributes
  | registry
  | framing
  | rereading
  | phase
deriving DecidableEq, Repr

def CommandError.stage : CommandError → Stage
  | .configUnread _ _ | .configInvalid _ => .configuration
  | .policyInvalid _ => .policy
  | .payloadMissing | .payloadInvalid _ | .payloadUnread _ _ => .payload
  | .attributeInvalid _ => .attributes
  | .registryUnread _ => .registry
  | .unframed _ => .framing
  | .recordsUnread _ | .recordMissing => .rereading
  | .phaseFailed _ _ => .phase

variable {files : Files} {request : CheckRequest} {p : Policy} {payload : Bytes}
  {attributes : Attributes} {path : String} {error : CommandError}

theorem exists_of_mapM_eq_error {α β ε : Type} {f : α → Except ε β} {list : List α} {fault : ε}
    (h : list.mapM f = .error fault) : ∃ a ∈ list, f a = .error fault := by
  induction list with
  | nil => cases h
  | cons a list ih =>
    rw [List.mapM_cons] at h
    rcases bind_eq_error_iff.1 h with first | ⟨b, -, later⟩
    · exact ⟨a, List.mem_cons_self, first⟩
    · rcases bind_eq_error_iff.1 later with rest | ⟨bs, -, none⟩
      · obtain ⟨other, member, failed⟩ := ih rest
        exact ⟨other, List.mem_cons_of_mem a member, failed⟩
      · cases none

theorem stage_of_loadConfiguration (h : loadConfiguration files path = .error error) :
    error.stage = .configuration := by
  rcases bind_eq_error_iff.1 h with unread | ⟨text, -, invalid⟩
  · obtain ⟨fault, -, rfl⟩ := mapError_eq_error_iff.1 unread
    rfl
  · obtain ⟨fault, -, rfl⟩ := mapError_eq_error_iff.1 invalid
    rfl

theorem stage_of_payloadBytes {payload? : Option Payload}
    (h : payloadBytes files payload? = .error error) : error.stage = .payload := by
  unfold payloadBytes at h
  split at h
  · rcases bind_eq_error_iff.1 h with invalid | ⟨json, -, none⟩
    · obtain ⟨fault, -, rfl⟩ := mapError_eq_error_iff.1 invalid
      rfl
    · cases none
  · cases h
  · obtain ⟨fault, -, rfl⟩ := mapError_eq_error_iff.1 h
    rfl
  · cases h
    rfl

theorem stage_of_readAttribute {entry : String} (h : readAttribute entry = .error error) :
    error.stage = .attributes := by
  unfold readAttribute at h
  dsimp only at h
  split at h
  · split at h
    · cases h
      rfl
    · cases h
  · cases h
    rfl

theorem stage_of_loadResources (h : loadResources files request = .error error) :
    error.stage = .registry := by
  unfold loadResources at h
  split at h
  · cases h
  · rcases bind_eq_error_iff.1 h with unread | ⟨registry, -, none⟩
    · obtain ⟨fault, -, rfl⟩ := mapError_eq_error_iff.1 unread
      rfl
    · cases none

theorem stage_of_call {surface : Surface} (h : request.call attributes payload surface = .error error) :
    error.stage = .framing := by
  have unframed {α : Type} {f : Broker.RecordSet → α}
      (h : (singleRecord request payload).map f = .error error) : error.stage = .framing := by
    obtain ⟨fault, rfl⟩ := exists_fault_of_singleRecord (map_eq_error_iff.1 h)
    rfl
  cases surface with
  | body direction => cases h
  | message direction => cases h
  | content direction => cases h
  | publish => exact unframed h
  | subscribe => exact unframed h

/-- A record is read back as it has been framed, so what fails after the framing is the phase. -/
theorem stage_of_runSurface {host : Host}
    (h : runSurface p host request attributes payload = .error error) :
    error.stage = .framing ∨ error.stage = .phase := by
  rw [runSurface_eq] at h
  rcases bind_eq_error_iff.1 h with unframed | ⟨c, -, h⟩
  · exact .inl (stage_of_call unframed)
  · rcases bind_eq_error_iff.1 h with failed | ⟨found, -, none⟩
    · obtain ⟨fault, -, rfl⟩ := mapError_eq_error_iff.1 failed
      exact .inr rfl
    · cases none

/-- A check that does not come to a report has not built its policy, or ends at one of the stages that follow;
rereading the record is not among them. -/
theorem stage_of_check (h : check files request = .error error) :
    ((error.stage = .configuration ∨ error.stage = .policy) ∧ ∀ p, ¬ Builds files request.config p) ∨
      error.stage ∈ [.payload, .attributes, .registry, .framing, .phase] := by
  rcases bind_eq_error_iff.1 h with unloaded | ⟨c, loaded, h⟩
  · refine .inl ⟨.inl (stage_of_loadConfiguration unloaded), ?_⟩
    rintro p ⟨c, loaded, -⟩
    cases unloaded.symm.trans loaded
  rcases bind_eq_error_iff.1 h with unbuilt | ⟨p, built, h⟩
  · obtain ⟨fault, failed, rfl⟩ := mapError_eq_error_iff.1 unbuilt
    refine .inl ⟨.inr rfl, ?_⟩
    rintro p ⟨other, again, built⟩
    obtain rfl := Except.ok.inj (loaded.symm.trans again)
    cases failed.symm.trans built
  refine .inr ?_
  rcases bind_eq_error_iff.1 h with ungiven | ⟨payload, -, h⟩
  · simp [stage_of_payloadBytes ungiven]
  rcases bind_eq_error_iff.1 h with unnamed | ⟨pairs, -, h⟩
  · obtain ⟨entry, -, unnamed⟩ := exists_of_mapM_eq_error unnamed
    simp [stage_of_readAttribute unnamed]
  rcases bind_eq_error_iff.1 h with unregistered | ⟨resources, -, h⟩
  · simp [stage_of_loadResources unregistered]
  rcases bind_eq_error_iff.1 h with unanswered | ⟨ends, -, none⟩
  · rcases stage_of_runSurface unanswered with framing | phase
    · simp [framing]
    · simp [phase]
  · cases none

theorem stage_ne_rereading_of_check (h : check files request = .error error) :
    error.stage ≠ .rereading := by
  intro rereading
  have others := stage_of_check h
  rw [rereading] at others
  exact absurd others (by simp)

end SchemaGate.Command

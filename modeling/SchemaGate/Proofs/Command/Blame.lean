import SchemaGate.Proofs.Command.Course
import SchemaGate.Proofs.Command.Errors
import SchemaGate.Proofs.Command.Report

/-!
# The partition that is blamed

For the broker's surfaces the payload travels alone.  Main statement: whatever its coordinates are, it is read
back as it was framed, so no check ends for want of it, and a check that keeps it back blames its partition
and no other.
-/

namespace SchemaGate.Command

variable {files : Files} {request : CheckRequest} {p : Policy} {host : Host} {payload : Bytes}
  {attributes : Attributes} {surface : Surface} {c : Call} {s : Session} {kind : FailureKind}
  {partitions : List PartitionReport} {report : CheckReport}

/-- The partitions that are reported when the payload is kept back at a surface of the broker. -/
def CheckRequest.blamed (request : CheckRequest) : Surface → List PartitionReport
  | .publish => [⟨request.topic, request.partition, 87, some (refusalText request.offset)⟩]
  | .subscribe => [⟨request.topic, request.partition, 2, none⟩]
  | _ => []

theorem answer_of_rejected {answer : Answer} (h : finding answer = .ok (.rejected kind partitions)) :
    (∃ response, answer = .publish (.ok (.interrupt response kind)) ∧
      refusedPartitions response = partitions) ∨
    ∃ response, answer = .subscribe (.ok (.interrupt kind)) response ∧
      spoiledPartitions response = partitions := by
  rcases answer with (_ | _ | _) | (_ | _ | _) | (_ | _ | _ | _) | (_ | _ | _) | ⟨_ | _ | _, response⟩ <;>
    cases h
  · exact .inl ⟨_, rfl, rfl⟩
  · exact .inr ⟨response, rfl, rfl⟩

theorem not_rejected_of_idle {answer : Answer} (sent : request.call attributes payload surface = .ok c)
    (idle : p.idle? c = some answer) : finding answer ≠ .ok (.rejected kind partitions) := by
  rcases idle_cases_of_call sent idle with ⟨-, -, -, found⟩ | ⟨-, -, found⟩ | ⟨-, -, found⟩ <;>
    rw [found] <;> nofun

theorem partitions_of_settled (sent : request.call attributes payload surface = .ok c) (seeks : p.Seeks c)
    {refusal? : Option Refusal}
    (rejected : finding (p.settled host c refusal?) = .ok (.rejected kind partitions)) :
    partitions = request.blamed surface := by
  cases surface with
  | body direction | message direction | content direction =>
    obtain rfl := Except.ok.inj sent
    rcases answer_of_rejected rejected with ⟨_, other, -⟩ | ⟨_, other, -⟩ <;> cases other
  | publish =>
    obtain ⟨set, -, rfl⟩ := map_eq_ok_iff.1 sent
    obtain ⟨strategy, handled⟩ := Option.isSome_iff_exists.1 seeks
    rw [Policy.settled, handled] at rejected
    cases refusal? with
    | none => cases rejected
    | some refusal =>
      obtain ⟨-, rfl⟩ := Finding.rejected.inj (Except.ok.inj rejected)
      exact refusedPartitions_reply strategy request set payload
  | subscribe =>
    obtain ⟨set, -, rfl⟩ := map_eq_ok_iff.1 sent
    obtain ⟨handler, handled⟩ := Option.isSome_iff_exists.1 seeks
    rw [Policy.settled, handled] at rejected
    cases refusal? with
    | none => cases rejected
    | some refusal =>
      cases handler with
      | invalidatePartition =>
        obtain ⟨-, rfl⟩ := Finding.rejected.inj (Except.ok.inj rejected)
        exact spoiledPartitions_invalidate request set payload
      | addRecordHeader name => cases rejected

theorem partitions_of_call (sent : request.call attributes payload surface = .ok c)
    (rejected : finding (p.call host c s).1 = .ok (.rejected kind partitions)) :
    partitions = request.blamed surface := by
  rcases p.call_cases host c s with ⟨answer, idle⟩ | ⟨-, -, next, abandoned, -⟩ | ⟨found, seeks, finds⟩
  · rw [Policy.call_of_idle idle] at rejected
    exact absurd rejected (not_rejected_of_idle sent idle)
  · rw [abandoned] at rejected
    cases c <;> cases rejected
  · rw [Policy.call_of_prompt (Host.prompt _) seeks finds] at rejected
    exact partitions_of_settled sent seeks rejected

theorem accepted_of_check (h : check files request = .ok report) :
    ∃ p payload attributes resources, Accepted files request p payload attributes resources := by
  obtain ⟨c, loaded, h⟩ := bind_eq_ok_iff.1 h
  obtain ⟨p, built, h⟩ := bind_eq_ok_iff.1 h
  obtain ⟨payload, given, h⟩ := bind_eq_ok_iff.1 h
  obtain ⟨pairs, named, h⟩ := bind_eq_ok_iff.1 h
  obtain ⟨resources, registered, h⟩ := bind_eq_ok_iff.1 h
  exact ⟨p, payload, _, resources, ⟨c, loaded, mapError_eq_ok_iff.1 built⟩, given, ⟨pairs, named, rfl⟩,
    registered⟩

theorem finding_of_check (h : check files request = .ok report) :
    ∃ (p : Policy) (host : Host) (attributes : Attributes) (payload : Bytes) (c : Call),
      request.call attributes payload request.surface = .ok c ∧
        finding (p.call host c {}).1 = .ok report.finding := by
  obtain ⟨p, payload, attributes, resources, accepted⟩ := accepted_of_check h
  rw [check_of_accepted accepted] at h
  obtain ⟨c, sent, h⟩ := bind_eq_ok_iff.1 h
  obtain ⟨found, answered, same⟩ := bind_eq_ok_iff.1 h
  obtain rfl := Except.ok.inj same
  exact ⟨p, _, attributes, payload, c, sent, mapError_eq_ok_iff.1 answered⟩

theorem failure?_of_call (sent : request.call attributes payload surface = .ok c)
    (broker : surface = .publish ∨ surface = .subscribe) : (p.call host c s).1.failure? = none := by
  rcases broker with rfl | rfl
  · obtain ⟨set, -, rfl⟩ := map_eq_ok_iff.1 sent
    rfl
  · obtain ⟨set, -, rfl⟩ := map_eq_ok_iff.1 sent
    rfl

theorem partitions_of_check (h : check files request = .ok report) (fails : report.verdict = .fail)
    (broker : request.surface = .publish ∨ request.surface = .subscribe) :
    report.finding.partitions = request.blamed request.surface := by
  obtain ⟨p, host, attributes, payload, c, sent, answered⟩ := finding_of_check h
  have unanswered : report.finding.failure? = none :=
    (parts_of_finding answered).1.trans (failure?_of_call sent broker)
  rw [CheckReport.verdict_eq_fail_iff, unanswered] at fails
  cases found : report.finding with
  | passed => simp [found, Finding.kind?] at fails
  | skipped => simp [found, Finding.kind?] at fails
  | answered failure => simp [found, Finding.failure?] at unanswered
  | rejected kind partitions =>
    rw [found] at answered
    exact partitions_of_call sent answered

/-- A payload can be framed if its length fits into four bytes with a sign, and it is then read back as the
only message, at its own coordinates and without a key or headers.  So neither of the errors for records that
cannot be read, or are not there, is ever the end of a check.  Where the payload is kept back, its partition
is the only one that is reported: the producer is told which offset is invalid, and the consumer that the
partition is corrupt. -/
theorem framed_payload_reported (request : CheckRequest) :
    (∀ payload : Bytes, (∃ set, singleRecord request payload = .ok set) ↔ payload.length ≤ 2147483647) ∧
    (∀ (payload : Bytes) (set : Broker.RecordSet), singleRecord request payload = .ok set →
      let message : Broker.Message :=
        { topic := request.topic, partition := request.partition, offset := request.offset, key := none
          content := payload, headers := [] }
      (produceRequest request set).messages = .ok [message] ∧
        (fetchResponse request set).messages = .ok [message]) ∧
    (∀ (files : Files) (error : CommandError), check files request = .error error →
      error ≠ .recordMissing ∧ ∀ fault, error ≠ .recordsUnread fault) ∧
    ∀ (files : Files) (report : CheckReport), check files request = .ok report → report.verdict = .fail →
      (request.surface = .publish → report.finding.partitions =
        [⟨request.topic, request.partition, 87,
          some ("Partition contains invalid record(s) at offset: " ++ toString request.offset.toInt)⟩]) ∧
      (request.surface = .subscribe → report.finding.partitions =
        [⟨request.topic, request.partition, 2, none⟩]) := by
  refine ⟨exists_singleRecord_iff request, fun payload set framed => ?_, fun files error ended => ?_,
    fun files report ended fails => ⟨fun publish => ?_, fun subscribe => ?_⟩⟩
  · exact ⟨messages_produceRequest framed, messages_fetchResponse framed⟩
  · have reread := stage_ne_rereading_of_check ended
    constructor
    · rintro rfl
      exact reread rfl
    · rintro fault rfl
      exact reread rfl
  · have blamed := partitions_of_check ended fails (.inl publish)
    rw [publish] at blamed
    exact blamed
  · have blamed := partitions_of_check ended fails (.inr subscribe)
    rw [subscribe] at blamed
    exact blamed

/-- An empty payload at the lowest partition and the lowest offset is framed, and is kept back on both of its
ways. -/
theorem framed_payload_reported_empty_payload :
    let text := "\x7b\"schema\":\"false\",\"nativeErrorHandling\":\x7b" ++
      "\"onPublish\":\x7b\"strategy\":\"FAIL_WITH_INVALID_RECORD\"\x7d," ++
      "\"onSubscribe\":\x7b\"strategy\":\"INVALIDATE_PARTITION\"\x7d\x7d\x7d"
    let files : Files :=
      { read := fun path => if path = "policy" then .ok (Utf8.encode text) else .error .notFound
        list := fun _ => .error .notFound }
    let request (surface : Surface) : CheckRequest :=
      { config := "policy", surface, payload? := some (.data ""), topic := "späť"
        partition := -2147483648, offset := -9223372036854775808 }
    (∃ set, singleRecord (request .publish) [] = .ok set ∧
      (produceRequest (request .publish) set).messages = .ok [(request .publish).recordMessage []]) ∧
    (∃ report, check files (request .publish) = .ok report ∧ report.verdict = .fail ∧
      report.finding.partitions = [⟨"späť", -2147483648, 87,
        some "Partition contains invalid record(s) at offset: -9223372036854775808"⟩]) ∧
    (∃ report, check files (request .subscribe) = .ok report ∧ report.verdict = .fail ∧
      report.finding.partitions = [⟨"späť", -2147483648, 2, none⟩]) := by
  intro text files request
  let report (surface : Surface) : CheckReport :=
    { surface, finding := .rejected .format ((request surface).blamed surface)
      detail? := some "payload is not valid JSON: EOF while parsing a value at line 1 column 0" }
  have published : check files (request .publish) = .ok (report .publish) := by decide +kernel
  have fetched : check files (request .subscribe) = .ok (report .subscribe) := by decide +kernel
  obtain ⟨framable, readBack, -, refused⟩ := framed_payload_reported (request .publish)
  obtain ⟨-, -, -, spoiled⟩ := framed_payload_reported (request .subscribe)
  obtain ⟨set, framed⟩ := (framable []).2 (by decide)
  refine ⟨⟨set, framed, (readBack [] set framed).1⟩, ⟨_, published, rfl, ?_⟩, ⟨_, fetched, rfl, ?_⟩⟩
  · exact (refused files _ published rfl).1 rfl
  · exact (spoiled files _ fetched rfl).2 rfl

end SchemaGate.Command

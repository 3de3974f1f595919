import SchemaGate.Rules.System
import SchemaGate.Broker.Encoding
import SchemaGate.Gate.Surface
import SchemaGate.Command.Error
import SchemaGate.Command.Report

/-!
# Checking a payload, and checking a configuration

Both commands begin with the same configuration file.  A check sends one payload through one surface of
the policy; for the broker's surfaces it travels as the only record of a request or a response.
-/

namespace SchemaGate.Command

/-- The files that a command can read and the directories that it can list. -/
structure Files where
  read : String → Except FileFault Bytes
  list : String → Except FileFault (List Entry)

def Files.readText (files : Files) (path : String) : Except FileFault String := do
  match Utf8.decode? (← files.read path) with
  | some text => .ok text
  | none => .error .notText

def loadConfiguration (files : Files) (path : String) : Except CommandError Configuration := do
  let text ← (files.readText path).mapError (.configUnread path)
  (Configuration.parse (Utf8.encode text)).mapError .configInvalid

def lint (files : Files) (path : String) : Except CommandError LintReport := do
  let c ← loadConfiguration files path
  let source ← c.effectiveSource.mapError .configInvalid
  let _ ← (Policy.ofConfiguration c).mapError .configInvalid
  .ok ⟨source, c.scope, c.onPublish?.isSome, c.onSubscribe?.isSome⟩

/-- The bytes to check.  Those that are given as JSON have to be JSON. -/
def payloadBytes (files : Files) : Option Payload → Except CommandError Bytes
  | some (.json text) => do
    let bytes := Utf8.encode text
    let _ ← (Json.parse bytes).mapError .payloadInvalid
    .ok bytes
  | some (.data text) => .ok (Utf8.encode text)
  | some (.file path) => (files.read path).mapError (.payloadUnread path)
  | none => .error .payloadMissing

/-- The name and the value on both sides of the first sign of equality; the name counts without the
blanks around it and must not be empty. -/
def readAttribute (entry : String) : Except CommandError (String × String) :=
  let chars := entry.toList
  let name := trimChars (chars.takeWhile (· ≠ '='))
  match chars.dropWhile (· ≠ '=') with
  | _ :: value =>
    if name.isEmpty then .error (.attributeInvalid entry)
    else .ok (String.ofList name, String.ofList value)
  | [] => .error (.attributeInvalid entry)

/-- The only registry of the event, if it has one. -/
def loadResources (files : Files) (request : CheckRequest) : Except CommandError Resources :=
  match request.registryDir? with
  | none => .ok .empty
  | some path => do
    let registry ← (SchemaDirectory.load {} path (files.list path)).mapError .registryUnread
    .ok (NameMap.ofList [(request.registryName, registry.service)])

/-- The payload as a set of one record. -/
def singleRecord (request : CheckRequest) (payload : Bytes) :
    Except CommandError Broker.RecordSet :=
  (Broker.RecordSet.ofRecords [⟨request.offset, none, some payload, []⟩]).mapError .unframed

def firstMessage (messages : Except Broker.WireError (List Broker.Message)) :
    Except CommandError Broker.Message :=
  match messages with
  | .error error => .error (.recordsUnread error)
  | .ok [] => .error .recordMissing
  | .ok (message :: _) => .ok message

def produceRequest (request : CheckRequest) (records : Broker.RecordSet) :
    Broker.ProduceRequest where
  topics := [⟨request.topic, [⟨request.partition, records⟩]⟩]

def fetchResponse (request : CheckRequest) (records : Broker.RecordSet) : Broker.FetchResponse where
  topics := [⟨request.topic, [{ index := request.partition, records }]⟩]

def refusedPartitions (response : Broker.ProduceResponse) : List PartitionReport :=
  (Broker.Topic.entries response.topics).map fun (topic, p) =>
    ⟨topic, p.index, p.errorCode.code, p.errorMessage⟩

def spoiledPartitions (response : Broker.FetchResponse) : List PartitionReport :=
  (Broker.Topic.entries response.topics).map fun (topic, p) =>
    { topic, partition := p.index, errorCode := p.errorCode.code }

/-- Sends the payload through a surface of a policy that has not judged anything yet. -/
def runSurface (p : Policy) (host : Host) (request : CheckRequest) (attributes : Attributes)
    (payload : Bytes) : Except CommandError (Finding × Session) :=
  let failed := CommandError.phaseFailed request.surface
  match request.surface with
  | .body direction => do
    let (outcome, s) := p.onBody host direction payload {}
    match ← outcome.mapError failed with
    | .pass => .ok (.passed, s)
    | .interrupt failure => .ok (.answered failure, s)
  | .message direction => do
    let (outcome, s) := p.onMessage host direction { content := payload, attributes } {}
    match ← outcome.mapError failed with
    | .forward _ => .ok (.passed, s)
    | .interrupt failure => .ok (.answered failure, s)
  | .content direction => do
    let (outcome, s) := p.onContent host direction { chunks := [payload] } {}
    match ← outcome.mapError failed with
    | .skipped => .ok (.skipped, s)
    | .forward _ => .ok (.passed, s)
    | .fail failure => .ok (.answered failure, s)
  | .publish => do
    let produce := produceRequest request (← singleRecord request payload)
    let message ← firstMessage produce.messages
    let (outcome, s) := p.onPublish host produce message {}
    match ← outcome.mapError failed with
    | .accept _ => .ok (.passed, s)
    | .interrupt response kind => .ok (.rejected kind (refusedPartitions response), s)
  | .subscribe => do
    let fetch := fetchResponse request (← singleRecord request payload)
    let message ← firstMessage fetch.messages
    let (outcome, fetch, s) := p.onSubscribe host fetch message {}
    match ← outcome.mapError failed with
    | .accept _ => .ok (.passed, s)
    | .interrupt kind => .ok (.rejected kind (spoiledPartitions fetch), s)

def check (files : Files) (request : CheckRequest) : Except CommandError CheckReport := do
  let c ← loadConfiguration files request.config
  let p ← (Policy.ofConfiguration c).mapError .policyInvalid
  let payload ← payloadBytes files request.payload?
  let attributes := NameMap.ofList (← request.attributes.mapM readAttribute)
  let resources ← loadResources files request
  let (finding, s) ←
    runSurface p (.ofAttributes resources attributes) request attributes payload
  .ok ⟨request.surface, finding, s.recorded?⟩

end SchemaGate.Command

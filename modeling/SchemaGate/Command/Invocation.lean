import SchemaGate.Gate.Phase
import SchemaGate.Command.Parameter

/-!
# Invocations

What the program is asked to do.  The parameters for output and logging may stand before the name of
the command or after it, where they count more.
-/

namespace SchemaGate.Command

inductive OutputFormat where
  | json
  | table
  | pretty
deriving DecidableEq, Repr

inductive LogFormat where
  | text
  | json
deriving DecidableEq, Repr

inductive LogLevel where
  | off
  | error
  | warn
  | info
  | debug
  | trace
deriving DecidableEq, Repr

/-- The settings that all commands share.  Commands write no log; how much of one is wanted, and in
what form, is read all the same. -/
structure Shared where
  format? : Option OutputFormat := none
  logFormat? : Option LogFormat := none
  logLevel? : Option LogLevel := none
deriving DecidableEq, Repr

namespace Shared

/-- The settings of a command over those that stand before its name. -/
def orElse (inner outer : Shared) : Shared :=
  ⟨inner.format?.or outer.format?, inner.logFormat?.or outer.logFormat?,
    inner.logLevel?.or outer.logLevel?⟩

def format (s : Shared) : OutputFormat :=
  s.format?.getD .json

end Shared

inductive Surface where
  | body (direction : Direction)
  | message (direction : Direction)
  | content (direction : Direction)
  | publish
  | subscribe
deriving DecidableEq, Repr

namespace Surface

def name : Surface → String
  | .body .request => "request"
  | .body .response => "response"
  | .message .request => "message-request"
  | .message .response => "message-response"
  | .content .request => "request-content"
  | .content .response => "response-content"
  | .publish => "publish"
  | .subscribe => "subscribe"

def list : List Surface :=
  [.body .request, .body .response, .message .request, .message .response, .content .request,
    .content .response, .publish, .subscribe]

def ofName? (text : String) : Option Surface :=
  list.find? fun surface => surface.name = text

end Surface

inductive Payload where
  | json (text : String)
  | data (text : String)
  | file (path : String)
deriving DecidableEq, Repr

/-- A payload to check, and the event it is checked for. -/
structure CheckRequest where
  config : String
  surface : Surface
  payload? : Option Payload := none
  registryDir? : Option String := none
  registryName : String := "registry"
  attributes : List String := []
  topic : String := "topic"
  partition : Int32 := 0
  offset : Int64 := 0
deriving DecidableEq, Repr

inductive Task where
  | check (request : CheckRequest)
  | lint (config : String)
  | version (extended : Bool)
deriving DecidableEq, Repr

structure Invocation where
  shared : Shared
  task : Task
deriving DecidableEq, Repr

def formats : List (String × OutputFormat) :=
  [("json", .json), ("table", .table), ("pretty", .pretty)]

def logFormats : List (String × LogFormat) :=
  [("text", .text), ("json", .json)]

def logLevels : List (String × LogLevel) :=
  [("off", .off), ("error", .error), ("warn", .warn), ("info", .info), ("debug", .debug),
    ("trace", .trace)]

def choice? {α : Type} (names : List (String × α)) (text : String) : Option α :=
  names.lookup text

def path? (text : String) : Option String :=
  if text.isEmpty then none else some text

def natural? (digits : List Char) : Option Nat :=
  if digits.isEmpty || !digits.all Char.isDigit then none
  else some (digits.foldl (fun n d => 10 * n + (d.toNat - 48)) 0)

def integer? (text : String) : Option Int :=
  match text.toList with
  | '+' :: digits => (natural? digits).map Int.ofNat
  | '-' :: digits => (natural? digits).map fun n => -Int.ofNat n
  | digits => (natural? digits).map Int.ofNat

def int32? (text : String) : Option Int32 :=
  (integer? text).bind fun n =>
    if -2147483648 ≤ n ∧ n ≤ 2147483647 then some (Int32.ofInt n) else none

def int64? (text : String) : Option Int64 :=
  (integer? text).bind fun n =>
    if -9223372036854775808 ≤ n ∧ n ≤ 9223372036854775807 then some (Int64.ofInt n) else none

def sharedParameters : List (Parameter Shared) :=
  [.ofValue "format" (choice? formats) fun v s => { s with format? := some v },
    .ofValue "log-format" (choice? logFormats) fun v s => { s with logFormat? := some v },
    .ofValue "log-level" (choice? logLevels) fun v s => { s with logLevel? := some v }]

/-- The parameters of a command: its own, the shared ones, and the one that asks for help. -/
def commandParameters {α : Type} (own : List (Parameter α)) : List (Parameter (Shared × α)) :=
  .help :: (sharedParameters.map (·.within Prod.fst fun s p => (s, p.2)) ++
    own.map (·.within Prod.snd fun a p => (p.1, a)))

/-- The settings of a check as far as they are given. -/
structure CheckDraft where
  config? : Option String := none
  surface? : Option Surface := none
  json? : Option String := none
  data? : Option String := none
  file? : Option String := none
  registryDir? : Option String := none
  registryName : String := "registry"
  attributes : List String := []
  topic : String := "topic"
  partition : Int32 := 0
  offset : Int64 := 0
deriving DecidableEq, Repr

def checkParameters : List (Parameter CheckDraft) :=
  [.ofValue "config" path? fun v d => { d with config? := some v },
    .ofValue "phase" Surface.ofName? fun v d => { d with surface? := some v },
    .ofValue "json" some fun v d => { d with json? := some v },
    .ofValue "data" some fun v d => { d with data? := some v },
    .ofValue "file" path? fun v d => { d with file? := some v },
    .ofValue "registry-dir" path? fun v d => { d with registryDir? := some v },
    .ofValue "registry-name" some fun v d => { d with registryName := v },
    { Parameter.ofValue "attr" some fun (v : String) (d : CheckDraft) =>
        { d with attributes := d.attributes ++ [v] } with repeatable := true },
    .ofValue "topic" some fun v d => { d with topic := v },
    .ofValue "partition" int32? fun v d => { d with partition := v },
    .ofValue "offset" int64? fun v d => { d with offset := v }]

namespace CheckDraft

def payload? (d : CheckDraft) : Except Halt (Option Payload) :=
  match d.json?, d.data?, d.file? with
  | some _, some _, _ => .error (.refuse (.conflict "json" "data"))
  | some _, _, some _ => .error (.refuse (.conflict "json" "file"))
  | _, some _, some _ => .error (.refuse (.conflict "data" "file"))
  | some text, none, none => .ok (some (.json text))
  | none, some text, none => .ok (some (.data text))
  | none, none, some path => .ok (some (.file path))
  | none, none, none => .ok none

def request (d : CheckDraft) : Except Halt CheckRequest := do
  let payload? ← d.payload?
  match d.config?, d.surface? with
  | none, _ => .error (.refuse (.required "config"))
  | _, none => .error (.refuse (.required "phase"))
  | some config, some surface =>
    .ok {
      config, surface, payload?
      registryDir? := d.registryDir?
      registryName := d.registryName
      attributes := d.attributes
      topic := d.topic
      partition := d.partition
      offset := d.offset }

end CheckDraft

def lintParameters : List (Parameter (Option String)) :=
  [.ofValue "config" path? fun v _ => some v]

def versionParameters : List (Parameter Bool) :=
  [{ name := "extended", effect := .flag fun _ => true }]

def commandNames : List String := ["check", "lint", "version", "help"]

def readCommand (name : String) (arguments : List String) : Except Halt Invocation :=
  match name with
  | "check" => do
    let (shared, draft) ← Reading.all (commandParameters checkParameters) ({}, {}) arguments
    .ok ⟨shared, .check (← draft.request)⟩
  | "lint" => do
    match ← Reading.all (commandParameters lintParameters) ({}, none) arguments with
    | (shared, some config) => .ok ⟨shared, .lint config⟩
    | (_, none) => .error (.refuse (.required "config"))
  | "version" => do
    let (shared, extended) ← Reading.all (commandParameters versionParameters) ({}, false) arguments
    .ok ⟨shared, .version extended⟩
  | _ =>
    match arguments with
    | [] => .error .help
    | [command] =>
      .error (if command ∈ commandNames then .help else .refuse (.unknown command))
    | _ :: extra :: _ => .error (.refuse (.unknown extra))

def Invocation.ofArguments (arguments : List String) : Except Halt Invocation := do
  let (outer, next?) ← Reading.run (.help :: .version :: sharedParameters) commandNames
    { settings := ({} : Shared) } arguments
  match next? with
  | none => do
    let _ ← outer.settle
    .error (.refuse .commandMissing)
  | some (name, rest) => do
    let inner ← readCommand name rest
    let outer ← outer.settle
    .ok { inner with shared := inner.shared.orElse outer.settings }

end SchemaGate.Command

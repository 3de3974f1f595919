import SchemaGate.Json.Print
import SchemaGate.Text.Table
import SchemaGate.Text.Quoted
import SchemaGate.Gate.Failure
import SchemaGate.Gate.Configuration
import SchemaGate.Command.Invocation

/-!
# Reports

What a command has found out, and its lines in each form of output.
-/

namespace SchemaGate.Command

inductive Verdict where
  | pass
  | fail
  | flagged
  | skipped
deriving DecidableEq, Repr

def Verdict.name : Verdict → String
  | .pass => "pass"
  | .fail => "fail"
  | .flagged => "flagged"
  | .skipped => "skipped"

/-- What the broker or the client is told of a partition. -/
structure PartitionReport where
  topic : String
  partition : Int32
  errorCode : Int16
  errorMessage? : Option String := none
deriving DecidableEq, Repr

/-- How a surface has dealt with the payload. -/
inductive Finding where
  | passed
  | skipped
  | answered (failure : Failure)
  | rejected (kind : FailureKind) (partitions : List PartitionReport)
deriving DecidableEq, Repr

/-- A finding, and the text that was recorded if the payload was refused. -/
structure CheckReport where
  surface : Surface
  finding : Finding
  detail? : Option String := none
deriving DecidableEq, Repr

structure LintReport where
  source : SchemaSource
  scope : Direction
  onPublish : Bool
  onSubscribe : Bool
deriving DecidableEq, Repr

def boolName (b : Bool) : String :=
  if b then "true" else "false"

namespace PartitionReport

def toJson (p : PartitionReport) : Json :=
  .object ([("topic", .string p.topic), ("partition", .number (.integer p.partition.toInt)),
      ("error_code", .number (.integer p.errorCode.toInt))] ++
    memberOf "error_message" (p.errorMessage?.map Json.string))

def cells (p : PartitionReport) : List String :=
  [p.topic, toString p.partition.toInt, toString p.errorCode.toInt, p.errorMessage?.getD ""]

def line (p : PartitionReport) : String :=
  "  " ++ p.topic ++ "-" ++ toString p.partition.toInt ++ " error=" ++
    toString p.errorCode.toInt ++ " " ++ p.errorMessage?.getD ""

end PartitionReport

namespace Finding

def kind? : Finding → Option FailureKind
  | .rejected kind _ => some kind
  | _ => none

def failure? : Finding → Option Failure
  | .answered failure => some failure
  | _ => none

def partitions : Finding → List PartitionReport
  | .rejected _ partitions => partitions
  | _ => []

end Finding

namespace CheckReport

/-- A payload that passes although a refusal was recorded has been flagged. -/
def verdict (r : CheckReport) : Verdict :=
  match r.finding with
  | .passed => if r.detail?.isSome then .flagged else .pass
  | .skipped => .skipped
  | .answered _ | .rejected _ _ => .fail

def toJson (r : CheckReport) : Json :=
  let partitions := r.finding.partitions
  .object ([("phase", .string r.surface.name), ("verdict", .string r.verdict.name)] ++
    memberOf "kind" (r.finding.kind?.map fun kind => .string kind.name) ++
    memberOf "failure" (r.finding.failure?.map Failure.toJson) ++
    memberOf "detail" (r.detail?.map Json.string) ++
    (if partitions.isEmpty then []
      else [("partitions", .array (partitions.map PartitionReport.toJson))]))

def verdictTable (r : CheckReport) : Table where
  heading := ["PHASE", "VERDICT", "STATUS", "KEY", "MESSAGE"]
  rows := [[r.surface.name, r.verdict.name] ++
    match r.finding.failure? with
    | some failure => [toString failure.statusCode.toNat, failure.key, failure.message]
    | none => ["", "", ""]]

def partitionTable (partitions : List PartitionReport) : Table where
  heading := ["TOPIC", "PARTITION", "ERROR", "MESSAGE"]
  rows := partitions.map PartitionReport.cells

def tableLines (r : CheckReport) : List String :=
  let partitions := r.finding.partitions
  r.verdictTable.draw ++
    (if partitions.isEmpty then [] else (partitionTable partitions).draw) ++
    r.detail?.toList

def prettyLines (r : CheckReport) : List String :=
  let failure := match r.finding.failure? with
    | some failure =>
      " status=" ++ toString failure.statusCode.toNat ++ " key=" ++ failure.key ++ " message=" ++
        Quoted.quote failure.message
    | none => ""
  ("phase=" ++ r.surface.name ++ " verdict=" ++ r.verdict.name ++ failure) ::
    (r.finding.partitions.map PartitionReport.line ++ r.detail?.toList.map ("  " ++ ·))

def lines (r : CheckReport) : OutputFormat → List String
  | .json => [r.toJson.print]
  | .table => r.tableLines
  | .pretty => r.prettyLines

end CheckReport

namespace LintReport

def sourceName (r : LintReport) : String :=
  match r.source with
  | .inline _ => "static"
  | .registry _ _ => "registry"

def scopeName (r : LintReport) : String :=
  nameIn scopes r.scope

def toJson (r : LintReport) : Json :=
  .object [("valid", .bool true), ("source", .string r.sourceName), ("scope", .string r.scopeName),
    ("on_publish", .bool r.onPublish), ("on_subscribe", .bool r.onSubscribe)]

def table (r : LintReport) : Table where
  heading := ["SOURCE", "SCOPE", "ON_PUBLISH", "ON_SUBSCRIBE"]
  rows := [[r.sourceName, r.scopeName, boolName r.onPublish, boolName r.onSubscribe]]

def prettyLine (r : LintReport) : String :=
  "configuration ok: source=" ++ r.sourceName ++ " scope=" ++ r.scopeName ++ " on_publish=" ++
    boolName r.onPublish ++ " on_subscribe=" ++ boolName r.onSubscribe

def lines (r : LintReport) : OutputFormat → List String
  | .json => [r.toJson.print]
  | .table => r.table.draw
  | .pretty => [r.prettyLine]

end LintReport

end SchemaGate.Command

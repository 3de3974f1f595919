import SchemaGate.Text.Blank
import SchemaGate.Broker.Produce
import SchemaGate.Broker.Fetch
import SchemaGate.Gate.Configuration

/-!
# Handling refused records

What becomes of a request or a response with a record that is refused.
-/

namespace SchemaGate

open Broker

def refusalText (offset : Int64) : String :=
  "Partition contains invalid record(s) at offset: " ++ toString offset.toInt

def siblingText : String := "Another partition contains invalid record(s)"

/-- The answer to a request with a refused record: none of its partitions is accepted.  All are refused
alike first, and then those that the record does not belong to are told so. -/
def PublishStrategy.reply (strategy : PublishStrategy) (request : ProduceRequest)
    (failed : Coordinates) : ProduceResponse :=
  match strategy with
  | .failWithInvalidRecord =>
    (request.refuse 0 .invalidRecord fun _ _ => some (refusalText failed.offset)).mapPartitions
      fun topic reply =>
        if topic ≠ failed.topic ∨ reply.index ≠ failed.partition then
          { reply with errorMessage := some siblingText }
        else reply

/-- A strategy for fetched records that can be carried out. -/
inductive SubscribeHandler where
  | invalidatePartition
  | addRecordHeader (name : String)
deriving DecidableEq, Repr

/-- Either the response is rewritten and returned, or the message is delivered. -/
inductive SubscribeReaction where
  | interrupt (response : FetchResponse)
  | deliver (message : Broker.Message)
deriving DecidableEq, Repr

namespace SubscribeHandler

def ofHandling (handling : SubscribeHandling) : Except PolicyError SubscribeHandler :=
  match handling.strategy with
  | .invalidatePartition => .ok .invalidatePartition
  | .addRecordHeader =>
    let name := trim (handling.headerName?.getD "")
    if name.isEmpty then .error (.configuration "ADD_RECORD_HEADER requires a headerName")
    else .ok (.addRecordHeader name)

/-- Marks the message's partition as corrupt and takes its records away. -/
def invalidate (response : FetchResponse) (message : Broker.Message) : FetchResponse :=
  { response with errorCode := .corruptMessage }.updatePartition message.topic message.partition
    fun p => { p with errorCode := .corruptMessage, records := .empty }

def react (handler : SubscribeHandler) (response : FetchResponse) (message : Broker.Message)
    (detail : String) : SubscribeReaction :=
  match handler with
  | .invalidatePartition => .interrupt (invalidate response message)
  | .addRecordHeader name => .deliver (message.putHeader name (Utf8.encode detail))

end SubscribeHandler

end SchemaGate

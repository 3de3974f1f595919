import SchemaGate.Broker.ErrorCode
import SchemaGate.Broker.Topic

/-!
# Fetching records

A response brings the records of some partitions to a consumer.
-/

namespace SchemaGate.Broker

structure FetchedPartition where
  index : Int32
  errorCode : ErrorCode := .none
  highWatermark : Int64 := -1
  records : RecordSet
deriving DecidableEq, Repr

instance : Indexed FetchedPartition := ⟨FetchedPartition.index⟩

structure FetchResponse where
  throttle : Int32 := 0
  errorCode : ErrorCode := .none
  sessionId : Int32 := 0
  topics : List (Topic FetchedPartition)
deriving DecidableEq, Repr

namespace FetchResponse

def messages (response : FetchResponse) : Except WireError (List Message) :=
  Topic.messages FetchedPartition.records response.topics

def partition? (response : FetchResponse) (topic : String) (index : Int32) :
    Option FetchedPartition :=
  Topic.find? response.topics topic index

def updatePartition (response : FetchResponse) (topic : String) (index : Int32)
    (f : FetchedPartition → FetchedPartition) : FetchResponse :=
  { response with topics := Topic.update topic index f response.topics }

end FetchResponse

end SchemaGate.Broker

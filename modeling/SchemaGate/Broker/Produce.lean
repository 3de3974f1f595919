import SchemaGate.Broker.ErrorCode
import SchemaGate.Broker.Topic

/-!
# Producing records

A client sends records for some partitions and is told, for each of them, what became of its records.
-/

namespace SchemaGate.Broker

structure ProducedPartition where
  index : Int32
  records : RecordSet
deriving DecidableEq, Repr

instance : Indexed ProducedPartition := ⟨ProducedPartition.index⟩

structure ProduceRequest where
  acks : Int16 := -1
  timeout : Int32 := 30000
  topics : List (Topic ProducedPartition)
deriving DecidableEq, Repr

structure PartitionReply where
  index : Int32
  errorCode : ErrorCode
  errorMessage : Option String
  baseOffset : Int64
deriving DecidableEq, Repr

instance : Indexed PartitionReply := ⟨PartitionReply.index⟩

structure ProduceResponse where
  throttle : Int32
  topics : List (Topic PartitionReply)
deriving DecidableEq, Repr

namespace ProduceRequest

def messages (request : ProduceRequest) : Except WireError (List Message) :=
  Topic.messages ProducedPartition.records request.topics

/-- The response that refuses every partition; each has its own message. -/
def refuse (request : ProduceRequest) (throttle : Int32) (code : ErrorCode)
    (message : String → Int32 → Option String) : ProduceResponse :=
  ⟨throttle, Topic.mapEntries (fun name p => ⟨p.index, code, message name p.index, -1⟩)
    request.topics⟩

end ProduceRequest

namespace ProduceResponse

def partition? (response : ProduceResponse) (topic : String) (index : Int32) :
    Option PartitionReply :=
  Topic.find? response.topics topic index

/-- Changes the reply for every partition, given the topic's name. -/
def mapPartitions (response : ProduceResponse) (f : String → PartitionReply → PartitionReply) :
    ProduceResponse :=
  { response with topics := Topic.mapEntries f response.topics }

end ProduceResponse

end SchemaGate.Broker

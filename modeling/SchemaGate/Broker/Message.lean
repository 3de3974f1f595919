import SchemaGate.Broker.Record

/-!
# Broker messages

A record on its way, addressed by topic and partition.  Its content is never null.
-/

namespace SchemaGate.Broker

structure Coordinates where
  topic : String
  partition : Int32
  offset : Int64
deriving DecidableEq, Repr

def Coordinates.describe (c : Coordinates) : String :=
  c.topic ++ "-" ++ toString c.partition.toInt ++ "@" ++ toString c.offset.toInt

structure Message where
  topic : String
  partition : Int32
  offset : Int64
  key : Option Bytes := none
  content : Bytes
  headers : List Header := []
deriving DecidableEq, Repr

namespace Message

def ofRecord (topic : String) (partition : Int32) (record : Record) : Message where
  topic := topic
  partition := partition
  offset := record.offset
  key := record.key
  content := record.value.getD []
  headers := record.headers

def toRecord (m : Message) : Record :=
  ⟨m.offset, m.key, some m.content, m.headers⟩

def coordinates (m : Message) : Coordinates :=
  ⟨m.topic, m.partition, m.offset⟩

/-- The value of the last header of that name. -/
def header? (m : Message) (name : String) : Option Bytes :=
  (m.headers.reverse.find? fun h => h.name = name).bind Header.value

def putHeader (m : Message) (name : String) (value : Bytes) : Message :=
  { m with headers := m.headers ++ [⟨name, some value⟩] }

end Message

end SchemaGate.Broker

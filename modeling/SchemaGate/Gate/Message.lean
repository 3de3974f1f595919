import SchemaGate.Text.NameMap
import SchemaGate.Broker.Message

/-!
# Messages and their bindings

A message in a message phase, and the names under which the parts of a message stand in expressions.
All of these names begin alike, so they cannot hide an attribute of the request with another name.
-/

namespace SchemaGate

structure Message where
  id? : Option String := none
  content : Bytes
  headers : NameMap String := .empty
  attributes : NameMap String := .empty
deriving DecidableEq, Repr

/-- The parts of a message by the names that expressions have for them. -/
abbrev Bindings := NameMap String

def headerBinding (name : String) : String := "message.header." ++ name

def attributeBinding (name : String) : String := "message.attribute." ++ name

namespace Message

def bindings (m : Message) : Bindings :=
  NameMap.ofList (m.id?.toList.map (fun id => ("message.id", id)) ++
    m.headers.entries.map (fun h => (headerBinding h.1, h.2)) ++
    m.attributes.entries.map (fun a => (attributeBinding a.1, a.2)))

end Message

namespace Broker.Message

/-- The last header of a name counts, and a null value is empty. -/
def bindings (m : Broker.Message) : Bindings :=
  NameMap.ofList ([("message.topic", m.topic),
      ("message.partition", toString m.partition.toInt),
      ("message.offset", toString m.offset.toInt)] ++
    m.key.toList.map (fun key => ("message.key", Utf8.lossy key)) ++
    m.headers.map (fun h => (headerBinding h.name, Utf8.lossy (h.value.getD []))))

end Broker.Message

end SchemaGate

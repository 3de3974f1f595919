import SchemaGate.Broker.Decoding
import SchemaGate.Broker.Message

/-!
# Topics and their partitions

Requests and responses list partitions by topic.  A topic may be listed more than once, and so may a
partition; the first one in order is meant.
-/

namespace SchemaGate.Broker

/-- A topic with what is said about its partitions. -/
structure Topic (α : Type) where
  name : String
  partitions : List α
deriving DecidableEq, Repr

/-- What is said about a partition tells which one it is. -/
class Indexed (α : Type) where
  index : α → Int32

/-- Changes the first item that qualifies; there may be none. -/
def updateFirst? {α : Type} (qualifies : α → Bool) (f : α → α) : List α → Option (List α)
  | [] => none
  | a :: rest =>
    if qualifies a then some (f a :: rest)
    else (updateFirst? qualifies f rest).map (a :: ·)

namespace Topic

variable {α : Type}

/-- The partitions of all topics, each with the topic's name. -/
def entries (topics : List (Topic α)) : List (String × α) :=
  topics.flatMap fun t => t.partitions.map fun p => (t.name, p)

def mapEntries {β : Type} (f : String → α → β) (topics : List (Topic α)) : List (Topic β) :=
  topics.map fun t => ⟨t.name, t.partitions.map (f t.name)⟩

variable [Indexed α]

def find? (topics : List (Topic α)) (name : String) (index : Int32) : Option α :=
  ((topics.filter fun t => t.name = name).flatMap Topic.partitions).find?
    fun p => Indexed.index p = index

/-- Changes a partition of the topic, if it is the one named and has the partition. -/
def update? (name : String) (index : Int32) (f : α → α) (t : Topic α) : Option (Topic α) :=
  if t.name = name then
    (updateFirst? (fun p => Indexed.index p = index) f t.partitions).map (Topic.mk t.name)
  else none

/-- Changes the first partition with that topic and index; without one, changes nothing. -/
def update (name : String) (index : Int32) (f : α → α) : List (Topic α) → List (Topic α)
  | [] => []
  | t :: rest =>
    match t.update? name index f with
    | some t => t :: rest
    | none => t :: update name index f rest

/-- The messages of every partition, in order; one set that cannot be read leaves none. -/
def messages (records : α → RecordSet) (topics : List (Topic α)) :
    Except WireError (List Message) := do
  let lists ← (entries topics).mapM fun (name, p) => do
    let found ← (records p).records
    .ok (found.map (Message.ofRecord name (Indexed.index p)))
  .ok lists.flatten

end Topic

end SchemaGate.Broker

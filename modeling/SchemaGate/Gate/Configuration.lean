import SchemaGate.Schema.Source
import SchemaGate.Validation.Report
import SchemaGate.Gate.Error
import SchemaGate.Gate.Phase

/-!
# Policy configurations

A configuration as it is written in JSON.  Every option may be left out, and options without a value
are not written.
-/

namespace SchemaGate

/-- How a refused record is reported to the client that sends it. -/
inductive PublishStrategy where
  | failWithInvalidRecord
deriving DecidableEq, Repr

/-- How a refused record is kept from the consumer, or shown to it. -/
inductive SubscribeStrategy where
  | invalidatePartition
  | addRecordHeader
deriving DecidableEq, Repr

structure PublishHandling where
  strategy : PublishStrategy := .failWithInvalidRecord
deriving DecidableEq, Repr

structure SubscribeHandling where
  strategy : SubscribeStrategy
  headerName? : Option String := none
deriving DecidableEq, Repr

structure BrokerHandling where
  onPublish? : Option PublishHandling := none
  onSubscribe? : Option SubscribeHandling := none
deriving DecidableEq, Repr

structure Configuration where
  source? : Option SchemaSource := none
  schema? : Option String := none
  validateUnchecked : Bool := false
  deepCheck : Bool := false
  straightRespondMode : Bool := false
  errorMessage? : Option String := none
  handling? : Option BrokerHandling := none
  scope : Direction := .request
deriving DecidableEq, Repr

def publishStrategies : List (String × PublishStrategy) :=
  [("FAIL_WITH_INVALID_RECORD", .failWithInvalidRecord)]

def subscribeStrategies : List (String × SubscribeStrategy) :=
  [("INVALIDATE_PARTITION", .invalidatePartition), ("ADD_RECORD_HEADER", .addRecordHeader)]

def scopes : List (String × Direction) :=
  [("REQUEST_CONTENT", .request), ("RESPONSE_CONTENT", .response)]

def nameIn {α : Type} [DecidableEq α] (names : List (String × α)) (a : α) : String :=
  ((names.find? fun entry => entry.2 = a).map Prod.fst).getD ""

def memberOf (name : String) (value? : Option Json) : List (String × Json) :=
  match value? with
  | some value => [(name, value)]
  | none => []

namespace PublishHandling

def read : Reader PublishHandling :=
  Shape.record "struct PublishErrorHandling"
    [Shape.field "strategy" false (Shape.choice publishStrategies) fun v h =>
      { h with strategy := v }]
    {}

def toJson (h : PublishHandling) : Json :=
  .object [("strategy", .string (nameIn publishStrategies h.strategy))]

def parse (text : Bytes) : Except JsonError PublishHandling :=
  Json.whole read text

end PublishHandling

namespace SubscribeHandling

def read : Reader SubscribeHandling :=
  Shape.record "struct SubscribeErrorHandling"
    [Shape.field "strategy" true (Shape.choice subscribeStrategies) fun v h =>
        { h with strategy := v },
      Shape.field "headerName" false (Shape.optional Shape.string) fun v h =>
        { h with headerName? := v }]
    { strategy := .invalidatePartition }

def toJson (h : SubscribeHandling) : Json :=
  .object (("strategy", .string (nameIn subscribeStrategies h.strategy)) ::
    memberOf "headerName" (h.headerName?.map Json.string))

def parse (text : Bytes) : Except JsonError SubscribeHandling :=
  Json.whole read text

end SubscribeHandling

namespace BrokerHandling

def read : Reader BrokerHandling :=
  Shape.record "struct NativeErrorHandling"
    [Shape.field "onPublish" false (Shape.optional PublishHandling.read) fun v h =>
        { h with onPublish? := v },
      Shape.field "onSubscribe" false (Shape.optional SubscribeHandling.read) fun v h =>
        { h with onSubscribe? := v }]
    {}

def toJson (h : BrokerHandling) : Json :=
  .object (memberOf "onPublish" (h.onPublish?.map PublishHandling.toJson) ++
    memberOf "onSubscribe" (h.onSubscribe?.map SubscribeHandling.toJson))

end BrokerHandling

namespace Configuration

def fields : List (Shape.Field Configuration) :=
  [Shape.field "schemaSource" false (Shape.optional SchemaSource.read) fun v c =>
      { c with source? := v },
    Shape.field "schema" false (Shape.optional Shape.string) fun v c => { c with schema? := v },
    Shape.field "validateUnchecked" false Shape.bool fun v c => { c with validateUnchecked := v },
    Shape.field "deepCheck" false Shape.bool fun v c => { c with deepCheck := v },
    Shape.field "straightRespondMode" false Shape.bool fun v c =>
      { c with straightRespondMode := v },
    Shape.field "errorMessage" false (Shape.optional Shape.string) fun v c =>
      { c with errorMessage? := v },
    Shape.field "nativeErrorHandling" false (Shape.optional BrokerHandling.read) fun v c =>
      { c with handling? := v },
    Shape.field "scope" false (Shape.choice scopes) fun v c => { c with scope := v }]

def read : Reader Configuration :=
  Shape.record "struct PolicyConfiguration" fields {}

def toJson (c : Configuration) : Json :=
  .object (memberOf "schemaSource" (c.source?.map SchemaSource.toJson) ++
    memberOf "schema" (c.schema?.map Json.string) ++
    [("validateUnchecked", .bool c.validateUnchecked), ("deepCheck", .bool c.deepCheck),
      ("straightRespondMode", .bool c.straightRespondMode)] ++
    memberOf "errorMessage" (c.errorMessage?.map Json.string) ++
    memberOf "nativeErrorHandling" (c.handling?.map BrokerHandling.toJson) ++
    [("scope", .string (nameIn scopes c.scope))])

def parse (text : Bytes) : Except PolicyError Configuration :=
  match Json.whole read text with
  | .ok c => .ok c
  | .error error => .error (.json error)

/-- The source of the schema; a bare schema stands for an inline source. -/
def effectiveSource (c : Configuration) : Except PolicyError SchemaSource :=
  match c.source?, c.schema? with
  | some source, _ => .ok source
  | none, some schema => .ok (.inline schema)
  | none, none => .error (.configuration "no schema source configured")

def options (c : Configuration) : ValidationOptions :=
  ⟨c.validateUnchecked, c.deepCheck⟩

/-- The expression of the message, if one is set and not empty. -/
def messageExpression? (c : Configuration) : Option String :=
  c.errorMessage?.filter fun text => !text.isEmpty

def onPublish? (c : Configuration) : Option PublishHandling :=
  c.handling?.bind BrokerHandling.onPublish?

def onSubscribe? (c : Configuration) : Option SubscribeHandling :=
  c.handling?.bind BrokerHandling.onSubscribe?

end Configuration

end SchemaGate

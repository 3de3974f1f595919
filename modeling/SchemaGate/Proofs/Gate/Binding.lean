import SchemaGate.Proofs.Gate.Call
import SchemaGate.Proofs.Text.NameMap

/-!
# What a message can say

The parts of a message are bound to names that begin with `message.`, and they hide no attribute with
another name.  Main statement: a sender has no say in an expression that names no part of a message, and
so none in which schema is found through such an expression.
-/

namespace SchemaGate

/-- The name is one that parts of messages are bound to. -/
def IsMessageName (name : String) : Prop :=
  "message.".toList <+: name.toList

instance (name : String) : Decidable (IsMessageName name) :=
  inferInstanceAs (Decidable ("message.".toList <+: name.toList))

/-- The bindings are those of a message, or of a record. -/
inductive OfMessage : Bindings → Prop where
  | message (m : Message) : OfMessage m.bindings
  | record (m : Broker.Message) : OfMessage m.bindings

/-- The expression, if it is well formed, names no part of a message. -/
def NamesNoMessage (expression : String) : Prop :=
  ∀ pieces, Template.pieces expression = .ok pieces →
    ∀ name, .value name ∈ pieces → ¬ IsMessageName name

theorem IsMessageName.append {name : String} (h : IsMessageName name) (rest : String) :
    IsMessageName (name ++ rest) := by
  rw [IsMessageName, String.toList_append]
  exact h.trans (List.prefix_append _ _)

theorem isMessageName_headerBinding (name : String) : IsMessageName (headerBinding name) :=
  IsMessageName.append (by decide : IsMessageName "message.header.") name

theorem isMessageName_attributeBinding (name : String) : IsMessageName (attributeBinding name) :=
  IsMessageName.append (by decide : IsMessageName "message.attribute.") name

theorem isMessageName_of_get?_ofList {list : List (String × String)}
    (h : ∀ entry ∈ list, IsMessageName entry.1) {name value : String}
    (found : (NameMap.ofList list).get? name = some value) : IsMessageName name :=
  h _ (NameMap.mem_of_get?_ofList found)

/-- Whatever a message holds, it is bound beneath the common beginning. -/
theorem isMessageName_of_bound {bindings : Bindings} (h : OfMessage bindings) {name value : String}
    (found : bindings.get? name = some value) : IsMessageName name := by
  cases h with
  | message m =>
    refine isMessageName_of_get?_ofList (fun entry member => ?_) found
    simp only [List.mem_append, List.mem_map] at member
    rcases member with (⟨id, -, rfl⟩ | ⟨header, -, rfl⟩) | ⟨tag, -, rfl⟩
    · show IsMessageName "message.id"
      decide
    · exact isMessageName_headerBinding header.1
    · exact isMessageName_attributeBinding tag.1
  | record m =>
    refine isMessageName_of_get?_ofList (fun entry member => ?_) found
    simp only [List.mem_append, List.mem_cons, List.mem_map, List.not_mem_nil, or_false] at member
    rcases member with ((rfl | rfl | rfl) | ⟨key, -, rfl⟩) | ⟨header, -, rfl⟩
    · show IsMessageName "message.topic"
      decide
    · show IsMessageName "message.partition"
      decide
    · show IsMessageName "message.offset"
      decide
    · show IsMessageName "message.key"
      decide
    · exact isMessageName_headerBinding header.name

theorem get?_bound {bindings : Bindings} (h : OfMessage bindings) (attributes : Attributes)
    (name : String) :
    (attributes.insertAll bindings.entries).get? name =
      if IsMessageName name then (bindings.get? name).or (attributes.get? name)
      else attributes.get? name := by
  rw [NameMap.get?_insertAll_entries]
  split
  · rfl
  · next other =>
    cases found : bindings.get? name with
    | none => rfl
    | some value => exact absurd (isMessageName_of_bound h found) other

variable {bindings : Bindings} {expression : String}

theorem evaluateFor_of_namesNoMessage (resources : Resources) (attributes : Attributes)
    (h : OfMessage bindings) (unnamed : NamesNoMessage expression) :
    (Host.ofAttributes resources attributes).evaluateFor bindings expression =
      (Host.ofAttributes resources attributes).evaluate expression := by
  have same : Template.render (attributes.insertAll bindings.entries).get? expression =
      Template.render attributes.get? expression := by
    refine Template.render_congr fun pieces cut name member => ?_
    rw [get?_bound h, if_neg (unnamed pieces cut name member)]
  simp only [Host.ofAttributes, Attributes.evaluator, Template.evaluate, same]

theorem engine_cases (env : Environment) (c : Call) :
    c.engine env = env.engine ∨ ∃ bindings, OfMessage bindings ∧ c.engine env = env.engineFor bindings := by
  cases c with
  | body direction bytes => exact .inl rfl
  | message direction m => exact .inr ⟨_, .message m, rfl⟩
  | content direction body => exact .inl rfl
  | publish request m => exact .inr ⟨_, .record m, rfl⟩
  | subscribe response m => exact .inr ⟨_, .record m, rfl⟩

theorem seek_congr {route : RegistryRoute} {resources : Resources} {engine other : Engine}
    (value : engine.evaluate route.mapping = other.evaluate route.mapping)
    (polls : engine.polls route.mapping = other.polls route.mapping) :
    route.seek resources engine = route.seek resources other := by
  simp only [RegistryRoute.seek, RegistryRoute.resolve, RegistryRoute.subject, value, polls]

namespace Policy

/-- The engine of a message asks the message for the names that are the message's, then the event, and
the event alone for all other names.  So an expression without such names has its value whatever the
message holds, and if the schema is mapped by one, messages and records have theirs sought as the event
has. -/
theorem message_hides_message_names (resources : Resources) (attributes : Attributes) :
    (∀ bindings, OfMessage bindings → ∀ expression,
      (NamesNoMessage expression →
        (Host.ofAttributes resources attributes).evaluateFor bindings expression =
          (Host.ofAttributes resources attributes).evaluate expression) ∧
      (Host.ofAttributes resources attributes).evaluateFor bindings expression =
        Template.evaluate (fun name =>
          if IsMessageName name then (bindings.get? name).or (attributes.get? name)
          else attributes.get? name) expression) ∧
    ∀ (p : Policy) (route : RegistryRoute), p.resolver = .lookup route →
      NamesNoMessage route.mapping → ∀ (c : Call) (direction : Direction) (body : Bytes),
        p.sought (Host.ofAttributes resources attributes) c =
          p.sought (Host.ofAttributes resources attributes) (.body direction body) := by
  refine ⟨fun bindings h expression => ⟨evaluateFor_of_namesNoMessage resources attributes h, ?_⟩,
    fun p route routed unnamed c direction body => ?_⟩
  · have same := funext (get?_bound h attributes)
    simp only [Host.ofAttributes, Attributes.evaluator, same]
  · rw [sought, sought, routed]
    rcases engine_cases (Host.ofAttributes resources attributes) c with plain | ⟨b, h, bound⟩
    · rw [plain]
      rfl
    · rw [bound]
      exact seek_congr (evaluateFor_of_namesNoMessage resources attributes h unnamed) rfl

/-- A record has a header for each name that its sender would like to decide.  It does not decide the
mapping, and of the names that are the message's it decides those that it has. -/
theorem message_hides_message_names_hostile_headers :
    let attributes : Attributes := (NameMap.empty.insert "tenant" "acme").insert "message.key" "k"
    let p : Policy :=
      { resolver := .lookup ⟨"schemas", "{ tenant }-orders"⟩, options := {}, messageExpression? := none
        straightRespond := false, scope := .request, publish? := none, subscribe? := none }
    let host := Host.ofAttributes .empty attributes
    let record : Broker.Message :=
      { topic := "a", partition := 0, offset := 3, content := []
        headers := [⟨"tenant", some (Utf8.encode "x")⟩, ⟨"../tenant", some []⟩] }
    let fetch : Call := .subscribe { topics := [] } record
    NamesNoMessage "{ tenant }-orders" ∧
      host.evaluateFor record.bindings "{ tenant }-orders" = .ok (some "acme-orders") ∧
      p.sought host fetch = p.sought host (.body .request []) ∧
      host.evaluateFor record.bindings "{message.header.tenant}{message.key}{message.id}" =
        .ok (some "xk") := by
  intro attributes p host record fetch
  have unnamed : NamesNoMessage "{ tenant }-orders" := by
    intro pieces cut name member
    have known : Template.pieces "{ tenant }-orders" =
      .ok (.value "tenant" :: "-orders".toList.map .literal) := by decide
    obtain rfl := Except.ok.inj (known.symm.trans cut)
    obtain rfl : name = "tenant" := by simpa using member
    decide
  have hides := message_hides_message_names .empty attributes
  have bound := hides.1 record.bindings (.record record)
  refine ⟨unnamed, ?_, hides.2 p _ rfl unnamed fetch .request [], ?_⟩
  · rw [(bound _).1 unnamed]
    decide
  · rw [(bound _).2]
    decide

end Policy

end SchemaGate

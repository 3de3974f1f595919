import SchemaGate.Rules.Format
import SchemaGate.Rules.Check

/-!
# Rules for schemas

A schema is itself a value that has to follow rules, one set for each version of the language.  The
rules stand here in the order in which they are reported; a reference leads back to the whole set.
-/

namespace SchemaGate.Rules.MetaSchema

def schema : Node := .rules [.reference []]

def kindsOf (kinds : List Kind) : Node := .rules [.kinds false kinds]

def text : Node := kindsOf [.string]
def flag : Node := kindsOf [.boolean]
def aNumber : Node := kindsOf [.number]

def nonNegative (strict : Bool) : Node :=
  .rules [.kinds strict [.integer], .bound .least true (.integer 0)]

def positive : Node :=
  .rules [.kinds false [.number], .bound .least false (.integer 0)]

def textWith (shown : String) : Node :=
  .rules [.kinds false [.string], .pattern shown ((Pattern.parse? shown).getD .empty)]

def formatted (name : String) (holds : String → Bool) : Node :=
  .rules [.kinds false [.string], .format name holds]

def regex : Node := formatted "regex" Format.isPattern
def uriReference : Node := formatted "uri-reference" (Format.isReference false)
def uri : Node := formatted "uri" (Format.isAbsolute false)

def schemas : Node :=
  .rules [.kinds false [.array], .count .items .least 1, .items 0 schema]

def membersOf (node : Node) : Node :=
  .rules [.kinds false [.object], .closedProperties [] [] (some node) none]

def texts : Node :=
  .rules [.kinds false [.array], .distinctItems, .items 0 text]

def someTexts : Node :=
  .rules [.kinds false [.array], .count .items .least 1, .distinctItems, .items 0 text]

def list : Node := kindsOf [.array]

def someDistinct : Node :=
  .rules [.kinds false [.array], .count .items .least 1, .distinctItems]

def either (nodes : List Node) : Node := .rules [.anyOf nodes]

def kindName : Node := .rules [.enumeration (Kind.all.map fun k => .string k.name)]

def kindNames : Node :=
  either [kindName,
    .rules [.kinds false [.array], .count .items .least 1, .distinctItems, .items 0 kindName]]

def schemaOrFlag : List Kind := [.boolean, .object]

def vocabulary (members : List (String × Node)) : Node :=
  .rules [.kinds false schemaOrFlag, .properties members]

def validation : Node :=
  vocabulary [("const", .all), ("dependentRequired", membersOf texts), ("enum", list),
    ("exclusiveMaximum", aNumber), ("exclusiveMinimum", aNumber), ("maxContains", nonNegative false),
    ("maxItems", nonNegative false), ("maxLength", nonNegative false),
    ("maxProperties", nonNegative false), ("maximum", aNumber), ("minContains", nonNegative false),
    ("minItems", nonNegative false), ("minLength", nonNegative false),
    ("minProperties", nonNegative false), ("minimum", aNumber), ("multipleOf", positive),
    ("pattern", text), ("required", texts), ("type", kindNames), ("uniqueItems", flag)]

def metaData : Node :=
  vocabulary [("default", .all), ("deprecated", flag), ("description", text), ("examples", list),
    ("readOnly", flag), ("title", text), ("writeOnly", flag)]

def formatName : Node := vocabulary [("format", text)]

def content : Node :=
  vocabulary [("contentEncoding", text), ("contentMediaType", text), ("contentSchema", schema)]

def withoutFragment : Node := textWith "^[^#]*#?$"

def vocabularies : Node :=
  .rules [.kinds false [.object], .closedProperties [] [] (some flag) none, .propertyNames text]

def core2020 : Node :=
  let anchor := textWith "^[A-Za-z_][-A-Za-z0-9._]*$"
  vocabulary [("$anchor", anchor), ("$comment", text), ("$defs", membersOf schema),
    ("$dynamicAnchor", anchor), ("$dynamicRef", text), ("$id", withoutFragment), ("$ref", text),
    ("$schema", text), ("$vocabulary", vocabularies)]

def applicator2020 : Node :=
  vocabulary [("additionalProperties", schema), ("allOf", schemas), ("anyOf", schemas),
    ("contains", schema), ("dependentSchemas", membersOf schema), ("else", schema), ("if", schema),
    ("items", schema), ("not", schema), ("oneOf", schemas), ("patternProperties", membersOf schema),
    ("prefixItems", schemas), ("properties", membersOf schema), ("propertyNames", schema),
    ("then", schema)]

def unevaluated2020 : Node :=
  vocabulary [("unevaluatedItems", schema), ("unevaluatedProperties", schema)]

def dependencies : Node := membersOf (either [schema, texts])

def draft2020 : Node :=
  let anchor := textWith "^[A-Za-z_][-A-Za-z0-9._]*$"
  .rules [.kinds false schemaOrFlag,
    .properties [("$recursiveAnchor", anchor), ("$recursiveRef", text),
      ("definitions", membersOf schema), ("dependencies", dependencies)],
    .allOf [core2020, applicator2020, unevaluated2020, validation, metaData, formatName, content]]

def core2019 : Node :=
  vocabulary [("$anchor", textWith "^[A-Za-z][-A-Za-z0-9.:_]*$"), ("$comment", text),
    ("$defs", membersOf schema), ("$id", withoutFragment), ("$recursiveAnchor", flag),
    ("$recursiveRef", text), ("$ref", text), ("$schema", text), ("$vocabulary", vocabularies)]

def applicator2019 : Node :=
  vocabulary [("additionalItems", schema), ("additionalProperties", schema), ("allOf", schemas),
    ("anyOf", schemas), ("contains", schema), ("dependentSchemas", membersOf schema),
    ("else", schema), ("if", schema), ("items", either [schema, schemas]), ("not", schema),
    ("oneOf", schemas), ("patternProperties", membersOf schema), ("properties", membersOf schema),
    ("propertyNames", schema), ("then", schema), ("unevaluatedItems", schema),
    ("unevaluatedProperties", schema)]

def draft2019 : Node :=
  .rules [.kinds false schemaOrFlag,
    .properties [("definitions", membersOf schema), ("dependencies", dependencies)],
    .allOf [core2019, applicator2019, validation, metaData, formatName, content]]

def patternMembers : Node :=
  .rules [.kinds false [.object], .closedProperties [] [] (some schema) none,
    .propertyNames (.rules [.format "regex" Format.isPattern])]

def draft7 : Node :=
  vocabulary [("$comment", text), ("$id", uriReference), ("$ref", uriReference), ("$schema", uri),
    ("additionalItems", schema), ("additionalProperties", schema), ("allOf", schemas),
    ("anyOf", schemas), ("const", .all), ("contains", schema), ("contentEncoding", text),
    ("contentMediaType", text), ("default", .all), ("definitions", membersOf schema),
    ("dependencies", dependencies), ("description", text), ("else", schema), ("enum", list),
    ("examples", list), ("exclusiveMaximum", aNumber), ("exclusiveMinimum", aNumber),
    ("format", text), ("if", schema), ("items", either [schema, schemas]),
    ("maxItems", nonNegative false), ("maxLength", nonNegative false),
    ("maxProperties", nonNegative false), ("maximum", aNumber), ("minItems", nonNegative false),
    ("minLength", nonNegative false), ("minProperties", nonNegative false), ("minimum", aNumber),
    ("multipleOf", positive), ("not", schema), ("oneOf", schemas), ("pattern", regex),
    ("patternProperties", patternMembers), ("properties", membersOf schema),
    ("propertyNames", schema), ("readOnly", flag), ("required", texts), ("then", schema),
    ("title", text), ("type", kindNames), ("uniqueItems", flag), ("writeOnly", flag)]

def draft6 : Node :=
  vocabulary [("$id", uriReference), ("$ref", uriReference), ("$schema", uri),
    ("additionalItems", schema), ("additionalProperties", schema), ("allOf", schemas),
    ("anyOf", schemas), ("const", .all), ("contains", schema), ("default", .all),
    ("definitions", membersOf schema), ("dependencies", dependencies), ("description", text),
    ("enum", someDistinct), ("examples", list), ("exclusiveMaximum", aNumber),
    ("exclusiveMinimum", aNumber), ("format", text), ("items", either [schema, schemas]),
    ("maxItems", nonNegative false), ("maxLength", nonNegative false),
    ("maxProperties", nonNegative false), ("maximum", aNumber), ("minItems", nonNegative false),
    ("minLength", nonNegative false), ("minProperties", nonNegative false), ("minimum", aNumber),
    ("multipleOf", positive), ("not", schema), ("oneOf", schemas), ("pattern", regex),
    ("patternProperties", membersOf schema), ("properties", membersOf schema),
    ("propertyNames", schema), ("required", texts), ("title", text), ("type", kindNames),
    ("uniqueItems", flag)]

def draft4 : Node :=
  let size := nonNegative true
  let schemaOr := either [flag, schema]
  .rules [.kinds false [.object],
    .properties [("$schema", text), ("additionalItems", schemaOr), ("additionalProperties", schemaOr),
      ("allOf", schemas), ("anyOf", schemas), ("default", .all), ("definitions", membersOf schema),
      ("dependencies", membersOf (either [schema, someTexts])), ("description", text),
      ("enum", someDistinct), ("exclusiveMaximum", flag), ("exclusiveMinimum", flag),
      ("format", text), ("id", text), ("items", either [schema, schemas]), ("maxItems", size),
      ("maxLength", size), ("maxProperties", size), ("maximum", aNumber), ("minItems", size),
      ("minLength", size), ("minProperties", size), ("minimum", aNumber), ("multipleOf", positive),
      ("not", schema), ("oneOf", schemas), ("pattern", regex),
      ("patternProperties", membersOf schema), ("properties", membersOf schema),
      ("required", someTexts), ("title", text), ("type", kindNames), ("uniqueItems", flag)],
    .dependentNodes [("exclusiveMaximum", .inl ["maximum"]), ("exclusiveMinimum", .inl ["minimum"])]]

def node : Draft → Node
  | .draft4 => draft4
  | .draft6 => draft6
  | .draft7 => draft7
  | .draft2019 => draft2019
  | .draft2020 => draft2020

/-- The rules that schemas of a version follow. -/
def program (draft : Draft) : Program :=
  ⟨node draft, [([], node draft)], 10⟩

end SchemaGate.Rules.MetaSchema

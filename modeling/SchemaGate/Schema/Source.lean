import SchemaGate.Json.Shape
import SchemaGate.Schema.Error

/-!
# Schema sources

Where the schema comes from, as a configuration writes it.
-/

namespace SchemaGate

inductive SchemaSource where
  | inline (content : String)
  | registry (resource mapping : String)
deriving DecidableEq, Repr

namespace SchemaSource

def tag : String := "sourceType"

def inlineName : String := "STATIC_SCHEMA"

def registryName : String := "SCHEMA_REGISTRY_RESOURCE"

def inlineShape : Shape.Variant SchemaSource where
  label := "struct variant SchemaSource::StaticSchema"
  fields := ["staticSchema"]
  make texts := .inline (texts.getD 0 "")

def registryShape : Shape.Variant SchemaSource where
  label := "struct variant SchemaSource::SchemaRegistryResource"
  fields := ["resourceName", "schemaMapping"]
  make texts := .registry (texts.getD 0 "") (texts.getD 1 "")

def read : Reader SchemaSource :=
  Shape.tagged "internally tagged enum SchemaSource" tag
    [(inlineName, inlineShape), (registryName, registryShape)]

def toJson : SchemaSource → Json
  | .inline content => .object [(tag, .string inlineName), ("staticSchema", .string content)]
  | .registry resource mapping =>
    .object [(tag, .string registryName), ("resourceName", .string resource),
      ("schemaMapping", .string mapping)]

def parse (text : Bytes) : Except JsonError SchemaSource :=
  Json.whole read text

end SchemaSource

end SchemaGate

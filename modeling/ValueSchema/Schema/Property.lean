import ValueSchema.Property.Surface
import ValueSchema.Schema.Decoding

/-!
# Typed schemas as property surfaces

A typed schema shows ten properties that can be read and written, and its reference, which can be
read only.  A property reads as the JSON value of its field and is written by decoding.  The list of
descriptors, the reads and the writes each name the properties on their own.
-/

namespace ValueSchema.Schema

/-- The properties that can be written. -/
def writableKeywords : List String :=
  ["type", "format", "title", "description", "nullable", "readOnly", "enum", "items", "properties",
   "example"]

def descriptors : List Descriptor :=
  writableKeywords.map Descriptor.readWrite ++ [Descriptor.readOnly "$ref"]

def read (s : Schema) (name : String) : Option Json :=
  match name with
  | "type" => some (textValue s.type)
  | "format" => some (textValue s.format)
  | "title" => some (textValue s.title)
  | "description" => some (textValue s.description)
  | "nullable" => some (.boolean s.nullable)
  | "readOnly" => some (.boolean s.readOnly)
  | "enum" => some (.array s.enumeration)
  | "items" => some ((s.items.map toJson).getD .null)
  | "properties" => some s.properties.toJson
  | "example" => some (s.sample.getD .null)
  | "$ref" => some (textValue s.reference)
  | _ => none

/-- What a value decodes to for a property, which is blamed if it does not. -/
def decoded {α : Type} (name : String) (found : Except DecodeError α) : Except FilterError α :=
  found.mapError fun cause => .invalidValue name (.undecodable cause)

def write (s : Schema) (name : String) (value : Json) : Except FilterError Schema :=
  let text := decoded name value.shape.toText?
  let flag := decoded name value.shape.toBoolean
  match name with
  | "type" => text.map fun found => { s with type := found }
  | "format" => text.map fun found => { s with format := found }
  | "title" => text.map fun found => { s with title := found }
  | "description" => text.map fun found => { s with description := found }
  | "nullable" => flag.map fun found => { s with nullable := found }
  | "readOnly" => flag.map fun found => { s with readOnly := found }
  | "enum" => (decoded name (toElements value)).map fun found => { s with enumeration := found }
  | "items" => (decoded name (node value).items?).map fun found => { s with items := found }
  | "properties" => (decoded name (toMembers value)).map fun found => { s with properties := found }
  | "example" => .ok { s with sample := if value.isNull then none else some value }
  | "$ref" => .error (.readOnlyProperty name)
  | _ => .error (.invalidValue name .unknownProperty)

instance : PropertySurface Schema where
  properties _ := descriptors
  get? := read
  set := write

end ValueSchema.Schema

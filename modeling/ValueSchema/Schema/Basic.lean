import ValueSchema.Json.Value

/-!
# Typed schemas

The part of a schema object that filters touch, as a record.  A schema may hold the schema of its
items, to any depth.  Its JSON form lists the fields in the order of their declaration and
leaves out those that are absent or empty, the two flags apart.
-/

namespace ValueSchema

structure Schema where
  type : Option String := none
  format : Option String := none
  title : Option String := none
  description : Option String := none
  nullable : Bool := false
  readOnly : Bool := false
  enumeration : List Json := []
  items : Option Schema := none
  properties : JsonObject := {}
  sample : Option Json := none
  reference : Option String := none
  deriving Inhabited

namespace Schema

inductive Field where
  | type
  | format
  | title
  | description
  | nullable
  | readOnly
  | enumeration
  | items
  | properties
  | sample
  | reference
  deriving DecidableEq

namespace Field

/-- The fields in the order of their declaration. -/
def all : List Field :=
  [type, format, title, description, nullable, readOnly, enumeration, items, properties, sample,
   reference]

def name : Field → String
  | type => "type"
  | format => "format"
  | title => "title"
  | description => "description"
  | nullable => "nullable"
  | readOnly => "readOnly"
  | enumeration => "enum"
  | items => "items"
  | properties => "properties"
  | sample => "example"
  | reference => "$ref"

theorem mem_all (field : Field) : field ∈ all := by
  cases field <;> decide

theorem name_inj {left right : Field} : left.name = right.name ↔ left = right := by
  cases left <;> cases right <;> decide

end Field

def ofType (type : String) : Schema := { type := some type }

def ofReference (reference : String) : Schema := { reference := some reference }

/-- A text, or `null` for its absence. -/
def textValue : Option String → Json
  | some text => .string text
  | none => .null

/-- The value of a field, given the JSON form of the items. -/
def value (items : Option Json) (s : Schema) : Field → Json
  | .type => textValue s.type
  | .format => textValue s.format
  | .title => textValue s.title
  | .description => textValue s.description
  | .nullable => .boolean s.nullable
  | .readOnly => .boolean s.readOnly
  | .enumeration => .array s.enumeration
  | .items => items.getD .null
  | .properties => s.properties.toJson
  | .sample => s.sample.getD .null
  | .reference => textValue s.reference

/-- The field appears in the JSON form. -/
def shows (s : Schema) : Field → Bool
  | .type => s.type.isSome
  | .format => s.format.isSome
  | .title => s.title.isSome
  | .description => s.description.isSome
  | .nullable => true
  | .readOnly => true
  | .enumeration => !s.enumeration.isEmpty
  | .items => s.items.isSome
  | .properties => !s.properties.isEmpty
  | .sample => s.sample.isSome
  | .reference => s.reference.isSome

/-- The members of the JSON form, given the JSON form of the items. -/
def members (items : Option Json) (s : Schema) : List (String × Json) :=
  (Field.all.filter s.shows).map fun field => (field.name, s.value items field)

/-- The JSON form of a schema. -/
def toJson : Schema → Json
  | ⟨type, format, title, description, nullable, readOnly, enumeration, items, properties, sample,
      reference⟩ =>
    .object (members (match items with | some inner => some inner.toJson | none => none)
      ⟨type, format, title, description, nullable, readOnly, enumeration, items, properties, sample,
        reference⟩)
termination_by structural s => s

def get (s : Schema) (field : Field) : Json := s.value (s.items.map toJson) field

/-- Equality of optional values, up to the order of members. -/
def sameValue? : Option Json → Option Json → Bool
  | some left, some right => left.same right
  | none, none => true
  | _, _ => false

/-- The two schemas agree, up to the order of members, in all but their items. -/
def sameOutside (left right : Schema) : Bool :=
  left.type == right.type && left.format == right.format && left.title == right.title &&
    left.description == right.description && left.nullable == right.nullable &&
    left.readOnly == right.readOnly && Json.sameElements left.enumeration right.enumeration &&
    left.properties.same right.properties && sameValue? left.sample right.sample &&
    left.reference == right.reference

/-- Equality of schemas, up to the order of members in their values. -/
def same : Schema → Schema → Bool
  | ⟨type, format, title, description, nullable, readOnly, enumeration, items, properties, sample,
      reference⟩, other =>
    sameOutside ⟨type, format, title, description, nullable, readOnly, enumeration, items,
        properties, sample, reference⟩ other &&
      match items, other.items with
      | some left, some right => same left right
      | none, none => true
      | _, _ => false
termination_by structural s => s

theorem toJson_eq (s : Schema) : s.toJson = .object (s.members (s.items.map toJson)) := by
  obtain ⟨_, _, _, _, _, _, _, items, _, _, _⟩ := s
  cases items <;> rfl

end Schema

end ValueSchema

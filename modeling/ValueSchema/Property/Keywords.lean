import ValueSchema.Property.Surface

/-!
# JSON objects as schemas

A JSON object shows the keywords of a schema as its properties.  The list of keywords is fixed: an
absent keyword reads as `null`, and writing `null` removes it.  The reference can be read but not
written, and keys that are no keywords are not properties.
-/

namespace ValueSchema

/-- The keywords that can be written. -/
def schemaKeywords : List String :=
  ["type", "format", "title", "description", "nullable", "readOnly", "writeOnly", "deprecated",
   "default", "example", "enum", "items", "properties", "additionalProperties", "required",
   "minimum", "maximum", "exclusiveMinimum", "exclusiveMaximum", "multipleOf", "minLength",
   "maxLength", "pattern", "minItems", "maxItems", "uniqueItems", "minProperties",
   "maxProperties", "allOf", "oneOf", "anyOf", "not"]

/-- The keyword of a reference. -/
def referenceKeyword : String := "$ref"

namespace JsonObject

/-- The descriptors of the keywords, the reference last. -/
def descriptors : List Descriptor :=
  schemaKeywords.map Descriptor.readWrite ++ [Descriptor.readOnly referenceKeyword]

def descriptor? (name : String) : Option Descriptor :=
  if name = referenceKeyword then some (.readOnly name)
  else if name ∈ schemaKeywords then some (.readWrite name)
  else none

def read (object : JsonObject) (name : String) : Option Json :=
  match descriptor? name with
  | none => none
  | some _ => some ((object.get? name).getD .null)

/-- Sets or removes a keyword. -/
def write (object : JsonObject) (name : String) (value : Json) : Except FilterError JsonObject :=
  match descriptor? name with
  | none => .error (.invalidValue name .unknownProperty)
  | some found =>
    if found.writable then
      .ok (if value.isNull then object.erase name else object.insert name value)
    else .error (.readOnlyProperty name)

instance : PropertySurface JsonObject where
  properties _ := descriptors
  property? _ := descriptor?
  get? := read
  set := write

theorem referenceKeyword_not_mem : referenceKeyword ∉ schemaKeywords := by decide

end JsonObject

end ValueSchema

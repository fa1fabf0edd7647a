/-!
# Schema types of primitives

The keyword under which a document describes a primitive.  Every name has one: a primitive that the
table does not know is described as an object.
-/

namespace ValueSchema

/-- The type keywords of a schema. -/
inductive SchemaType where
  | integer
  | number
  | string
  | boolean
  | object
  deriving DecidableEq, Inhabited

namespace SchemaType

/-- All keywords, the fallback last. -/
def all : List SchemaType := [integer, number, string, boolean, object]

def keyword : SchemaType → String
  | integer => "integer"
  | number => "number"
  | string => "string"
  | boolean => "boolean"
  | object => "object"

/-- The keyword of a primitive that the table does not know. -/
def fallback : SchemaType := object

/-- The known primitives, by metadata name. -/
def table : List (String × SchemaType) :=
  [("System.Int32", integer),
   ("System.Single", number),
   ("System.Decimal", number),
   ("System.Double", number),
   ("System.String", string),
   ("System.Boolean", boolean)]

def ofPrimitive (name : String) : SchemaType := (table.lookup name).getD fallback

end SchemaType

end ValueSchema

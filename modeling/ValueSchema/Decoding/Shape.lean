import ValueSchema.Json.Value
import ValueSchema.Text.Numeral
import ValueSchema.Text.Quoted

/-!
# Shapes of values

What a decoder of scalar fields can tell about a value, whatever format the value was written in,
and how a message describes it.
-/

namespace ValueSchema

/-- A scalar, or the bare kind of a compound value. -/
inductive Shape where
  | null
  | boolean (value : Bool)
  | integer (value : Int)
  | float (value : Binary64)
  | string (value : String)
  | sequence
  | map
  deriving DecidableEq

namespace Shape

/-- The value as a message names it, with floating point numbers in the layout of the format. -/
def describe (layout : Binary64.Layout) : Shape → String
  | null => "null"
  | boolean value => "boolean `" ++ (if value then "true" else "false") ++ "`"
  | integer value => "integer `" ++ Text.decimal value ++ "`"
  | float value => "floating point `" ++ value.text layout ++ "`"
  | string value => "string " ++ Text.quoted value
  | sequence => "sequence"
  | map => "map"

end Shape

def Json.shape : Json → Shape
  | .null => .null
  | .boolean value => .boolean value
  | .integer value => .integer value
  | .float value => .float value
  | .string value => .string value
  | .array _ => .sequence
  | .object _ => .map

end ValueSchema

import ValueSchema.Customization
import ValueSchema.Decoding.Position
import ValueSchema.Decoding.Shape

/-!
# Decoding errors

The reasons why a value does not decode to the type asked for, and their wording.  The message of a
JSON decoder differs from the bare wording at its end, where it settles a position.
-/

namespace ValueSchema

/-- What a decoder asks for. -/
inductive Expectation where
  | string
  | boolean
  | sequence
  | map
  | record (name : String)
  deriving DecidableEq

namespace Expectation

def describe : Expectation → String
  | string => "a string"
  | boolean => "a boolean"
  | sequence => "a sequence"
  | map => "a map"
  | record name => "struct " ++ name

end Expectation

/-- A reason why a value does not decode. -/
inductive DecodeError where
  /-- The value has another shape than the one expected. -/
  | invalidType (found : Shape) (expected : Expectation)
  /-- A sequence ends before the last field of the record. -/
  | tooShort (length : Nat) (record : String) (fields : Nat)
  /-- A sequence goes on after the last field of its record. -/
  | tooLong (length : Nat)
  /-- A record lacks a field that has no default. -/
  | missingField (name : String)
  /-- A record that admits no other fields has one. -/
  | unknownField (name : String) (known : List String)
  /-- A number or name that selects no customization. -/
  | unknownCustomization (cause : UnknownCustomization)
  /-- A value that is neither a number nor a name of a customization. -/
  | notSelector
  deriving DecidableEq

namespace DecodeError

def backquoted (name : String) : String := "`" ++ name ++ "`"

/-- The wording of the error, with floating point numbers in the layout of the format. -/
def wording (layout : Binary64.Layout) : DecodeError → String
  | invalidType found expected =>
    "invalid type: " ++ found.describe layout ++ ", expected " ++ expected.describe
  | tooShort length record fields =>
    "invalid length " ++ Text.decimal length ++ ", expected struct " ++ record ++ " with " ++
      Text.decimal fields ++ " elements"
  | tooLong length =>
    "invalid length " ++ Text.decimal length ++ ", expected fewer elements in array"
  | missingField name => "missing field " ++ backquoted name
  | unknownField name known =>
    "unknown field " ++ backquoted name ++ ", expected one of " ++
      ", ".intercalate (known.map backquoted)
  | unknownCustomization cause => cause.message
  | notSelector => "data did not match any variant of untagged enum SelectorRepr"

def message (error : DecodeError) : String := settlePosition (error.wording Json.numberLayout)

end DecodeError

namespace Shape

def toText : Shape → Except DecodeError String
  | string value => .ok value
  | found => .error (.invalidType found .string)

/-- A text, or its absence written as `null`. -/
def toText? : Shape → Except DecodeError (Option String)
  | null => .ok none
  | found => found.toText.map some

def toBoolean : Shape → Except DecodeError Bool
  | boolean value => .ok value
  | found => .error (.invalidType found .boolean)

end Shape

end ValueSchema

import ValueSchema.Binary64.Layout
import ValueSchema.OrderedMap

/-!
# JSON values

A JSON value with its object members in order.  Integers and floating point numbers are different
values, whatever their magnitude.  Two values are the same when they differ at most in the order of
members.
-/

namespace ValueSchema

inductive Json where
  | null
  | boolean (value : Bool)
  | integer (value : Int)
  | float (value : Binary64)
  | string (value : String)
  | array (elements : List Json)
  | object (members : List (String × Json))
  deriving Inhabited

namespace Json

/-- How messages about JSON lay out floating point numbers: a tie goes to the even digit, and very
small and very large numbers are in scientific notation. -/
def numberLayout : Binary64.Layout where
  tie := .even
  positionalRange := some (-5, 15)

def isNull : Json → Bool
  | null => true
  | _ => false

mutual

/-- Equality of values that takes no account of the order of members. -/
def same : Json → Json → Bool
  | .null, .null => true
  | .boolean left, .boolean right => left == right
  | .integer left, .integer right => left == right
  | .float left, .float right => left.same right
  | .string left, .string right => left == right
  | .array left, .array right => sameElements left right
  | .object left, .object right => left.length == right.length && sameMembers left right
  | _, _ => false
termination_by structural left => left

/-- The two lists hold the same values place by place. -/
def sameElements : List Json → List Json → Bool
  | [], [] => true
  | left :: lefts, right :: rights => same left right && sameElements lefts rights
  | _, _ => false
termination_by structural lefts => lefts

/-- Each of the members has its like among the others. -/
def sameMembers : List (String × Json) → List (String × Json) → Bool
  | [], _ => true
  | (key, left) :: lefts, rights =>
    (match OrderedMap.lookup key rights with
      | some right => same left right
      | none => false) && sameMembers lefts rights
termination_by structural lefts => lefts

end

end Json

/-- A JSON object whose keys are unique. -/
abbrev JsonObject := OrderedMap Json

namespace JsonObject

def toJson (object : JsonObject) : Json := .object object.entries

def same (left right : JsonObject) : Bool := left.toJson.same right.toJson

end JsonObject

end ValueSchema

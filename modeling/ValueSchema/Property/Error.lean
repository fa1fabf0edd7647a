import ValueSchema.Decoding.Error

/-!
# Errors of schema filters

The reasons why a property cannot be copied, a value cannot be assigned, or a value object cannot be
registered, and their wording.
-/

namespace ValueSchema

/-- Why a property refuses a value. -/
inductive Refusal where
  /-- There is no property of that name. -/
  | unknownProperty
  /-- The property does not admit `null`. -/
  | nullValue
  /-- The value does not decode to the type of the property. -/
  | undecodable (cause : DecodeError)
  deriving DecidableEq

def Refusal.message : Refusal → String
  | unknownProperty => "no such property"
  | nullValue => "null"
  | undecodable cause => cause.message

/-- A reason why a schema or a registry is left as it was. -/
inductive FilterError where
  /-- A property of the destination has no counterpart on the source. -/
  | missingProperty (property : String)
  | invalidValue (property : String) (refusal : Refusal)
  | readOnlyProperty (property : String)
  /-- The value object is registered with another primitive. -/
  | conflictingRegistration (typeName existing requested : String)
  deriving DecidableEq

namespace FilterError

def message : FilterError → String
  | missingProperty property =>
    "property " ++ Text.quoted property ++ " not found on generated schema"
  | invalidValue property refusal =>
    "property " ++ Text.quoted property ++ " rejected value: " ++ refusal.message
  | readOnlyProperty property => "property " ++ Text.quoted property ++ " is not writable"
  | conflictingRegistration typeName existing requested =>
    typeName ++ " is already registered with underlying type " ++ existing ++ ", not " ++ requested

end FilterError

end ValueSchema

import ValueSchema.Configuration.Basic
import ValueSchema.Decoding.Record

/-!
# Decoding of configurations

A configuration is decoded setting by setting, in the order of the document; a key that is no
setting is refused, and `null` stands for absence.  Decoding does not validate.
-/

namespace ValueSchema

/-- Decodes a customization from its flag or its name. -/
def Customization.ofShape : Shape → Except DecodeError Customization
  | .integer n =>
    if Text.isInt64 n then (Customization.ofFlag n).mapError .unknownCustomization
    else .error .notSelector
  | .string text => (Customization.parse text).mapError .unknownCustomization
  | _ => .error .notSelector

namespace Configuration

/-- Assigns a setting from the shape of its value. -/
def assign (setting : Setting) (found : Shape) (c : Configuration) :
    Except DecodeError Configuration :=
  match setting with
  | .customization =>
    match found with
    | .null => .ok { c with customization := none }
    | found =>
      (Customization.ofShape found).map fun choice => { c with customization := some choice }
  | .enclosingNamespace => found.toText?.map fun text => { c with enclosingNamespace := text }
  | .generatorName => found.toText?.map fun text => { c with generatorName := text }
  | .generatorVersion => found.toText?.map fun text => { c with generatorVersion := text }

def format : RecordFormat Setting Shape Configuration where
  fields := Setting.all
  name := Setting.name
  unknown key := some (.unknownField key (Setting.all.map Setting.name))
  assign := assign

/-- Decodes the members of a document in turn. -/
def ofMembers (members : List (String × Shape)) : Except DecodeError Configuration :=
  format.takeMembers default members

def ofJson : Json → Except DecodeError Configuration
  | .object members => ofMembers (members.map fun member => (member.1, member.2.shape))
  | .array elements => format.takeSequence default (elements.map Json.shape)
  | value => .error (.invalidType value.shape (.record "SynthesisConfig"))

theorem field?_name (setting : Setting) : format.field? setting.name = some setting := by
  cases setting <;> decide

end Configuration

end ValueSchema

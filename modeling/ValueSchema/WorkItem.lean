import ValueSchema.Decoding.Record

/-!
# Work items

A value object found in a project, with the primitive that underlies it.  Both are named in full.
-/

namespace ValueSchema

/-- A value object and its underlying primitive. -/
structure WorkItem where
  typeName : String
  underlyingName : String
  deriving DecidableEq, Inhabited

namespace WorkItem

inductive Field where
  | typeName
  | underlyingName
  deriving DecidableEq

def Field.name : Field → String
  | typeName => "type_name"
  | underlyingName => "underlying_type_name"

/-- A work item of which some fields may still be missing. -/
structure Draft where
  typeName : Option String := none
  underlyingName : Option String := none

/-- The record format of work items; names that are no fields are passed over. -/
def format : RecordFormat Field Json Draft where
  fields := [.typeName, .underlyingName]
  name := Field.name
  unknown _ := none
  assign
    | .typeName, value, draft =>
      value.shape.toText.map fun text => { draft with typeName := some text }
    | .underlyingName, value, draft =>
      value.shape.toText.map fun text => { draft with underlyingName := some text }

/-- The finished work item, or an error for the first missing field. -/
def Draft.finish (missing : Field → DecodeError) (draft : Draft) : Except DecodeError WorkItem :=
  match draft.typeName, draft.underlyingName with
  | some typeName, some underlyingName => .ok ⟨typeName, underlyingName⟩
  | none, _ => .error (missing .typeName)
  | some _, none => .error (missing .underlyingName)

def ofJson : Json → Except DecodeError WorkItem
  | .object members =>
    (format.takeMembers {} members).bind (Draft.finish fun field => .missingField field.name)
  | .array elements =>
    (format.takeSequence {} elements).bind
      (Draft.finish fun _ => .tooShort elements.length "WorkItem" 2)
  | value => .error (.invalidType value.shape (.record "WorkItem"))

end WorkItem

end ValueSchema

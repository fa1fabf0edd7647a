import ValueSchema.Decoding.Record
import ValueSchema.Schema.Basic

/-!
# Decoding of schemas

A schema decodes from its members or from the sequence of its fields, and so do the items inside it.
Names that are no fields are passed over.  Texts, items and the sample admit `null` for absence;
flags, enumerations and properties do not.
-/

namespace ValueSchema.Schema

def toElements : Json → Except DecodeError (List Json)
  | .array elements => .ok elements
  | found => .error (.invalidType found.shape .sequence)

def toMembers : Json → Except DecodeError JsonObject
  | .object members => .ok (.ofList members)
  | found => .error (.invalidType found.shape .map)

/-- A value, and what it decodes to as the schema of items. -/
structure Node where
  value : Json
  schema : Except DecodeError Schema

def Node.items? (node : Node) : Except DecodeError (Option Schema) :=
  if node.value.isNull then .ok none else node.schema.map some

def assign (field : Field) (node : Node) (s : Schema) : Except DecodeError Schema :=
  let text := node.value.shape.toText?
  let flag := node.value.shape.toBoolean
  match field with
  | .type => text.map fun found => { s with type := found }
  | .format => text.map fun found => { s with format := found }
  | .title => text.map fun found => { s with title := found }
  | .description => text.map fun found => { s with description := found }
  | .nullable => flag.map fun found => { s with nullable := found }
  | .readOnly => flag.map fun found => { s with readOnly := found }
  | .enumeration => (toElements node.value).map fun found => { s with enumeration := found }
  | .items => node.items?.map fun found => { s with items := found }
  | .properties => (toMembers node.value).map fun found => { s with properties := found }
  | .sample =>
    .ok { s with sample := if node.value.isNull then none else some node.value }
  | .reference => text.map fun found => { s with reference := found }

def recordFormat : RecordFormat Field Node Schema where
  fields := Field.all
  name := Field.name
  unknown _ := none
  assign := assign

mutual

def ofJson : Json → Except DecodeError Schema
  | .object members => recordFormat.takeMembers {} (memberNodes members)
  | .array elements => recordFormat.takeSequence {} (nodes elements)
  | .null => .error (.invalidType .null (.record "OpenApiSchema"))
  | .boolean value => .error (.invalidType (.boolean value) (.record "OpenApiSchema"))
  | .integer value => .error (.invalidType (.integer value) (.record "OpenApiSchema"))
  | .float value => .error (.invalidType (.float value) (.record "OpenApiSchema"))
  | .string value => .error (.invalidType (.string value) (.record "OpenApiSchema"))
termination_by structural value => value

def memberNodes : List (String × Json) → List (String × Node)
  | [] => []
  | (key, value) :: rest => (key, ⟨value, ofJson value⟩) :: memberNodes rest
termination_by structural members => members

def nodes : List Json → List Node
  | [] => []
  | value :: rest => ⟨value, ofJson value⟩ :: nodes rest
termination_by structural values => values

end

def node (value : Json) : Node := ⟨value, ofJson value⟩

theorem memberNodes_eq_map (members : List (String × Json)) :
    memberNodes members = members.map fun member => (member.1, node member.2) := by
  induction members with
  | nil => rfl
  | cons member rest ih => simp [memberNodes, node, ih]

theorem nodes_eq_map (values : List Json) : nodes values = values.map node := by
  induction values with
  | nil => rfl
  | cons value rest ih => simp [nodes, node, ih]

theorem field?_name (field : Field) : recordFormat.field? field.name = some field := by
  cases field <;> decide

end ValueSchema.Schema

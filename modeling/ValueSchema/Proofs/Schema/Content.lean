import ValueSchema.Proofs.Decoding.Fields
import ValueSchema.Proofs.OrderedMap
import ValueSchema.Schema.Decoding

/-!
# Contents of the fields of a schema

A typed schema taken field by field: what a field holds, what a JSON value decodes to as its
content, and what replacing it leaves alone.  The main statement is `ofJson_object_eq_ok_iff`.  It
describes the decoding of an object by one condition for each field, and no condition mentions the
order of the members.
-/

namespace ValueSchema.Schema

/-! ## One field at a time -/

def Field.Content : Field → Type
  | .type | .format | .title | .description | .reference => Option String
  | .nullable | .readOnly => Bool
  | .enumeration => List Json
  | .items => Option Schema
  | .properties => JsonObject
  | .sample => Option Json

def content (s : Schema) : (field : Field) → field.Content
  | .type => s.type
  | .format => s.format
  | .title => s.title
  | .description => s.description
  | .nullable => s.nullable
  | .readOnly => s.readOnly
  | .enumeration => s.enumeration
  | .items => s.items
  | .properties => s.properties
  | .sample => s.sample
  | .reference => s.reference

def replace (s : Schema) : (field : Field) → field.Content → Schema
  | .type, found => { s with type := found }
  | .format, found => { s with format := found }
  | .title, found => { s with title := found }
  | .description, found => { s with description := found }
  | .nullable, found => { s with nullable := found }
  | .readOnly, found => { s with readOnly := found }
  | .enumeration, found => { s with enumeration := found }
  | .items, found => { s with items := found }
  | .properties, found => { s with properties := found }
  | .sample, found => { s with sample := found }
  | .reference, found => { s with reference := found }

/-- What a value decodes to as the content of a field. -/
def Field.decode (node : Node) : (field : Field) → Except DecodeError field.Content
  | .type | .format | .title | .description | .reference => node.value.shape.toText?
  | .nullable | .readOnly => node.value.shape.toBoolean
  | .enumeration => toElements node.value
  | .items => node.items?
  | .properties => toMembers node.value
  | .sample => .ok (if node.value.isNull then none else some node.value)

/-- The content of a field in the schema without members. -/
def Field.absent (field : Field) : field.Content := ({} : Schema).content field

@[simp] theorem content_replace_self
    (s : Schema) (field : Field) (found : field.Content) :
    (s.replace field found).content field = found := by
  cases field <;> rfl

theorem content_replace_of_ne
    (s : Schema) {field other : Field} (found : field.Content)
    (h : other ≠ field) :
    (s.replace field found).content other = s.content other := by
  cases field <;> cases other <;> first | rfl | exact absurd rfl h

theorem ext_content
    {s t : Schema} (h : ∀ field, s.content field = t.content field) :
    s = t := by
  obtain ⟨_, _, _, _, _, _, _, _, _, _, _⟩ := s
  obtain ⟨_, _, _, _, _, _, _, _, _, _, _⟩ := t
  rw [mk.injEq]
  exact ⟨h .type, h .format, h .title, h .description, h .nullable, h .readOnly, h .enumeration,
    h .items, h .properties, h .sample, h .reference⟩

theorem assign_eq_map (field : Field) (node : Node) (s : Schema) :
    assign field node s = (field.decode node).map (s.replace field) := by
  obtain ⟨value, schema⟩ := node
  cases field with
  | enumeration => cases value <;> rfl
  | properties => cases value <;> rfl
  | items =>
      cases value <;> cases schema <;> rfl
  | sample => cases value <;> rfl
  | _ => rfl

theorem content_of_not_shows
    {s : Schema} {field : Field} (h : s.shows field = false) :
    s.content field = field.absent := by
  cases field with
  | nullable => cases h
  | readOnly => cases h
  | enumeration =>
      have hnil : s.enumeration = [] := by simpa [shows] using h
      exact hnil
  | properties =>
      have hnil : s.properties.entries = [] := by
        simpa [shows, OrderedMap.isEmpty] using h
      exact OrderedMap.ext hnil
  | _ => exact Option.isNone_iff_eq_none.mp (Option.isSome_eq_false_iff.mp h)

/-- Only a field that admits absence decodes from `null`, and it then decodes to it. -/
theorem Field.eq_absent_of_decode_null
    {field : Field} {found : field.Content}
    (h : field.decode (node .null) = .ok found) :
    found = field.absent := by
  cases field <;> first | exact (Except.ok.inj h).symm | cases h

/-! ## The decoding of an object -/

/-- A field that starts with one content and may meet a value ends with another content. -/
def Field.Reads (field : Field) (start : field.Content) :
    Option Json → field.Content → Prop
  | none, found => found = start
  | some value, found => field.decode (node value) = .ok found

def fieldwise : recordFormat.Fieldwise Field.Content where
  content := content
  replace := replace
  decode field node := field.decode node
  assign_eq_map := assign_eq_map
  content_replace_self := content_replace_self
  content_replace_of_ne := content_replace_of_ne
  ext_content := ext_content
  field?_name := field?_name

theorem reads_node_iff
    {field : Field} {start found : field.Content} {value : Option Json} :
    RecordFormat.Reads (fieldwise.decode field) start (value.map node) found ↔
      field.Reads start value found := by
  cases value <;> rfl

theorem takeMembers_eq_ok_iff
    {members : List (String × Json)} (hnodup : (members.map Prod.fst).Nodup)
    {start s : Schema} :
    recordFormat.takeMembers start (memberNodes members) = .ok s ↔
      ∀ field : Field, field.Reads (start.content field)
        (OrderedMap.lookup field.name members) (s.content field) := by
  have hkeys : ((memberNodes members).map Prod.fst).Nodup := by
    rwa [memberNodes_eq_map, OrderedMap.keys_map]
  have hunknown : ∀ member ∈ memberNodes members,
      recordFormat.field? member.1 = none → recordFormat.unknown member.1 = none :=
    fun _ _ _ => rfl
  rw [fieldwise.takeMembers_eq_ok_iff hkeys, and_iff_right hunknown, memberNodes_eq_map]
  refine forall_congr' fun field => ?_
  rw [OrderedMap.lookup_map]
  exact reads_node_iff

/-- An object decodes to the schema that holds, in each field, what its member decodes to. -/
theorem ofJson_object_eq_ok_iff
    {members : List (String × Json)} (hnodup : (members.map Prod.fst).Nodup)
    {s : Schema} :
    ofJson (.object members) = .ok s ↔
      ∀ field : Field, field.Reads field.absent
        (OrderedMap.lookup field.name members) (s.content field) :=
  takeMembers_eq_ok_iff hnodup

end ValueSchema.Schema

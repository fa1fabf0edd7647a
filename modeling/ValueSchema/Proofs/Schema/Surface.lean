import ValueSchema.Proofs.Attempts
import ValueSchema.Proofs.Schema.RoundTrip
import ValueSchema.Schema.Property

/-!
# The properties of a schema and its JSON form

The properties of a typed schema are the keys that its JSON form may have.  The descriptors, the
reads and the writes each name them anew; they name the fields of the declaration, in its order.  A
property reads as the JSON form shows it, or as it reads without members if it is not shown.  A
write does to the one field of its key what the decoding of an object with this key alone does, and
is refused with the same message.
-/

namespace ValueSchema

def Json.member? (value : Json) (key : String) : Option Json :=
  match value with
  | .object members => OrderedMap.lookup key members
  | _ => none

namespace Schema

open PropertySurface

variable {s t : Schema} {field : Field} {key : String} {value : Json}

/-! ## Names -/

def Field.writable (field : Field) : Bool := field ≠ .reference

def Field.descriptor (field : Field) : Descriptor := ⟨field.name, true, field.writable⟩

theorem descriptors_eq : descriptors = Field.all.map Field.descriptor := by decide

theorem exists_eq_descriptor {d : Descriptor} (hd : d ∈ descriptors) :
    ∃ field : Field, d = field.descriptor := by
  rw [descriptors_eq] at hd
  obtain ⟨field, -, rfl⟩ := List.mem_map.mp hd
  exact ⟨field, rfl⟩

def names (s : Schema) : List String := (PropertySurface.properties s).map Descriptor.name

theorem mem_names_iff : key ∈ s.names ↔ ∃ field : Field, field.name = key := by
  have hnames : s.names = Field.all.map Field.name := by
    change descriptors.map Descriptor.name = _
    rw [descriptors_eq, List.map_map]
    rfl
  rw [hnames, List.mem_map]
  exact exists_congr fun field => and_iff_right (Field.mem_all field)

theorem name_eq_reference_iff : field.name = "$ref" ↔ field.writable = false := by
  cases field <;> decide

/-! ## Reading -/

theorem get?_name (s : Schema) (field : Field) : get? s field.name = some (s.get field) := by
  cases field <;> rfl

theorem get?_eq_none (s : Schema) (h : recordFormat.field? key = none) : get? s key = none := by
  change read s key = none
  unfold read
  split
  case h_12 => rfl
  all_goals cases h

theorem get_congr (h : s.content field = t.content field) : s.get field = t.get field := by
  cases field with
  | type => exact congrArg textValue h
  | format => exact congrArg textValue h
  | title => exact congrArg textValue h
  | description => exact congrArg textValue h
  | reference => exact congrArg textValue h
  | nullable => exact congrArg Json.boolean h
  | readOnly => exact congrArg Json.boolean h
  | enumeration => exact congrArg Json.array h
  | items => exact congrArg (fun items : Option Schema => (items.map toJson).getD .null) h
  | properties => exact congrArg JsonObject.toJson h
  | sample => exact congrArg (fun sample : Option Json => sample.getD .null) h

/-- The JSON form shows a field as it is read. -/
theorem member?_toJson (s : Schema) (field : Field) :
    s.toJson.member? field.name = if s.shows field then some (s.get field) else none := by
  have hshown : field ∈ Field.all.filter s.shows ↔ s.shows field = true := by
    rw [List.mem_filter, and_iff_right (Field.mem_all field)]
  rw [toJson_eq, Json.member?, members, lookup_map_name]
  simp only [hshown]
  rfl

theorem exists_name_of_member?_toJson (h : s.toJson.member? key = some value) :
    ∃ field : Field, field.name = key := by
  rw [toJson_eq] at h
  obtain ⟨field, -, hfield⟩ := List.mem_map.mp (OrderedMap.mem_of_lookup_eq_some h)
  exact ⟨field, congrArg Prod.fst hfield⟩

/-! ## Writing -/

theorem map_decoded
    {α β : Type} (name : String) (f : α → β) (found : Except DecodeError α) :
    (decoded name found).map f = decoded name (found.map f) := by
  cases found <;> rfl

/-- A write replaces the content of its field by what the value decodes to. -/
theorem set_name (s : Schema) (hwritable : field.writable = true) (value : Json) :
    set s field.name value =
      ((field.decode (node value)).map (s.replace field)).mapError fun cause =>
        .invalidValue field.name (.undecodable cause) := by
  cases field with
  | sample => rfl
  | reference => cases hwritable
  | _ => exact map_decoded _ _ _

theorem set_eq_error (s : Schema) (h : recordFormat.field? key = none) (value : Json) :
    set s key value = .error (.invalidValue key .unknownProperty) := by
  change write s key value = _
  unfold write
  split
  case h_12 => rfl
  all_goals cases h

theorem ofJson_singleton (field : Field) (value : Json) :
    ofJson (.object [(field.name, value)]) =
      (field.decode (node value)).map (replace {} field) :=
  fieldwise.takeMembers_singleton {} field (node value)

/-- Replacing a field brings over what another schema holds there, and nothing else. -/
theorem content_replace_eq_ite (s t : Schema) (field : Field) (found : field.Content)
    (other : Field) :
    (s.replace field found).content other =
      if other.name = field.name then (t.replace field found).content other
      else s.content other := by
  by_cases h : other = field
  · subst h
    rw [if_pos rfl, content_replace_self, content_replace_self]
  · rw [if_neg (mt Field.name_inj.mp h), content_replace_of_ne s found h]

/-- The properties of a schema are the keys of its JSON form: what is shown under a key is read
there, and a property that is not shown is read as it is from the schema without members.  A write
of any property but the reference is accepted just when the object with this member alone decodes.
It then brings over the one field of the key; otherwise it changes nothing and gives the message of
the decoding. -/
theorem properties_agree_with_json (s : Schema) :
    (∀ key value, s.toJson.member? key = some value → get? s key = some value ∧ key ∈ s.names) ∧
    (∀ key ∈ s.names, s.toJson.member? key = none → get? s key = get? ({} : Schema) key) ∧
    ∀ key ∈ s.names, key ≠ "$ref" → ∀ value,
      ((∃ next, set s key value = .ok next) ↔ ∃ t, ofJson (.object [(key, value)]) = .ok t) ∧
      (∀ t, ofJson (.object [(key, value)]) = .ok t → ∃ next, set s key value = .ok next ∧
        ∀ field : Field,
          next.content field = if field.name = key then t.content field else s.content field) ∧
      ∀ error, ofJson (.object [(key, value)]) = .error error →
        Attempts.settle s (set s key value) = s ∧
        ∃ refusal, set s key value = .error (.invalidValue key refusal) ∧
          refusal.message = error.message := by
  refine ⟨?_, ?_, ?_⟩
  · intro key value h
    obtain ⟨field, rfl⟩ := exists_name_of_member?_toJson h
    refine ⟨?_, mem_names_iff.mpr ⟨field, rfl⟩⟩
    rw [member?_toJson] at h
    split at h
    · rw [get?_name, ← h]
    · cases h
  · intro key hkey h
    obtain ⟨field, rfl⟩ := mem_names_iff.mp hkey
    rw [member?_toJson] at h
    split at h
    · cases h
    · rename_i hshows
      have hcontent := content_of_not_shows (eq_false_of_ne_true hshows)
      rw [get?_name, get?_name, get_congr hcontent]
  · intro key hkey hreference value
    obtain ⟨field, rfl⟩ := mem_names_iff.mp hkey
    have hwritable : field.writable = true :=
      eq_true_of_ne_false (mt name_eq_reference_iff.mpr hreference)
    -- Both sides come down to what the value decodes to as the content of the field.
    rw [set_name s hwritable value, ofJson_singleton]
    cases field.decode (node value) with
    | ok found =>
        refine ⟨⟨fun _ => ⟨_, rfl⟩, fun _ => ⟨_, rfl⟩⟩, ?_, nofun⟩
        rintro _ ⟨⟩
        exact ⟨_, rfl, content_replace_eq_ite s {} field found⟩
    | error error =>
        refine ⟨⟨nofun, nofun⟩, nofun, ?_⟩
        rintro _ ⟨⟩
        exact ⟨rfl, .undecodable error, rfl, rfl⟩

/-- A sample that is `null` is shown, and a title that is absent is not.  Items given as a sequence
are written, and a text is refused as a flag. -/
theorem properties_agree_with_json_of_null_sample :
    let s : Schema := { type := some "array", sample := some .null }
    get? s "example" = some .null ∧ get? s "title" = get? ({} : Schema) "title" ∧
    (∃ next, set s "items" (.array [.string "integer"]) = .ok next ∧
      next.items = some (ofType "integer") ∧ next.type = some "array") ∧
    ∃ refusal, set s "nullable" (.string "yes") = .error (.invalidValue "nullable" refusal) ∧
      refusal.message = "invalid type: string \"yes\", expected a boolean" := by
  intro s
  have hitems : ofJson (.object [("items", .array [.string "integer"])]) =
      .ok { items := some (ofType "integer") } := rfl
  have hnullable : ofJson (.object [("nullable", .string "yes")]) =
      .error (.invalidType (.string "yes") .boolean) := rfl
  obtain ⟨hshown, hhidden, hwrite⟩ := properties_agree_with_json s
  obtain ⟨-, haccepted, -⟩ := hwrite "items" (by decide) (by decide) (.array [.string "integer"])
  obtain ⟨-, -, hrefused⟩ := hwrite "nullable" (by decide) (by decide) (.string "yes")
  obtain ⟨next, hnext, hcontent⟩ := haccepted _ hitems
  obtain ⟨-, refusal, hset, hmessage⟩ := hrefused _ hnullable
  refine ⟨(hshown "example" .null rfl).1, hhidden "title" (by decide) rfl, ?_, ?_⟩
  · exact ⟨next, hnext, hcontent .items, hcontent .type⟩
  · exact ⟨refusal, hset, hmessage.trans (by decide +kernel)⟩

end Schema

end ValueSchema

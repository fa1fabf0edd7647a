import ValueSchema.Proofs.Schema.Content

/-!
# Normal schemas and the JSON form

A schema may hold the sample `null`, which its JSON form cannot tell from no sample at all.  The
normal schemas, which hold no such sample at any depth, are those that decoding yields.  The JSON
form of any schema decodes to its normal form, so a normal schema survives the round trip.
-/

namespace ValueSchema

/-! ## Invariants of decoding -/

namespace RecordFormat

variable {φ ν ρ : Type}

/-- What every assignment keeps is kept by the decoding of named members. -/
theorem takeMembers_invariant
    {format : RecordFormat φ ν ρ} {P : ρ → Prop} {members : List (String × ν)}
    (hassign : ∀ member ∈ members, ∀ field record next, P record →
      format.assign field member.2 record = .ok next → P next)
    {record final : ρ} (hrecord : P record)
    (h : format.takeMembers record members = .ok final) :
    P final := by
  induction members generalizing record with
  | nil =>
      rw [← Except.ok.inj h]
      exact hrecord
  | cons member rest ih =>
      have hrest := fun other hother => hassign other (List.mem_cons_of_mem _ hother)
      rw [takeMembers, takeMember] at h
      cases hfield : format.field? member.1 with
      | none =>
          rw [hfield] at h
          cases hunknown : format.unknown member.1 with
          | none => exact ih hrest hrecord (by simpa [hunknown] using h)
          | some error => simp [hunknown] at h
      | some field =>
          cases hnext : format.assign field member.2 record with
          | error error => simp [hfield, hnext] at h
          | ok next =>
              have hkept := hassign member (by simp) field record next hrecord hnext
              exact ih hrest hkept (by simpa [hfield, hnext] using h)

theorem takeFields_invariant
    {format : RecordFormat φ ν ρ} {P : ρ → Prop} {values : List ν}
    (hassign : ∀ value ∈ values, ∀ field record next, P record →
      format.assign field value record = .ok next → P next)
    {total : Nat} {fields : List φ} {record final : ρ} (hrecord : P record)
    (h : format.takeFields total fields record values = .ok final) :
    P final := by
  induction values generalizing fields record with
  | nil =>
      rw [takeFields] at h
      rw [← Except.ok.inj h]
      exact hrecord
  | cons value rest ih =>
      have hrest := fun other hother => hassign other (List.mem_cons_of_mem _ hother)
      cases fields with
      | nil => cases h
      | cons field fields =>
          rw [takeFields] at h
          cases hnext : format.assign field value record with
          | error error => simp [hnext] at h
          | ok next =>
              have hkept := hassign value (by simp) field record next hrecord hnext
              exact ih hrest hkept (by simpa [hnext] using h)

end RecordFormat

namespace Schema

/-! ## Normal schemas -/

/-- The schema with no sample instead of the sample `null`, and so for its items. -/
def normal : Schema → Schema
  | ⟨type, format, title, description, nullable, readOnly, enumeration, items, properties, sample,
      reference⟩ =>
    ⟨type, format, title, description, nullable, readOnly, enumeration,
      match items with | some inner => some inner.normal | none => none,
      properties, sample.filter fun found => !found.isNull, reference⟩
termination_by structural s => s

theorem normal_eq (s : Schema) :
    s.normal = { s with
      items := s.items.map normal, sample := s.sample.filter fun found => !found.isNull } := by
  obtain ⟨_, _, _, _, _, _, _, items, _, _, _⟩ := s
  cases items <;> rfl

theorem normal_eq_self_iff {s : Schema} :
    s.normal = s ↔
      s.sample ≠ some .null ∧ ∀ inner, s.items = some inner → inner.normal = inner := by
  obtain ⟨_, _, _, _, _, _, _, items, _, sample, _⟩ := s
  rw [normal_eq, mk.injEq]
  have hsample : (sample.filter fun found => !found.isNull) = sample ↔ sample ≠ some .null := by
    rcases sample with _ | (_ | _ | _ | _ | _ | _ | _) <;> simp [Option.filter, Json.isNull]
  cases items with
  | none => simp [hsample]
  | some inner =>
      simp only [Option.map_some, Option.some.injEq, true_and, and_true, hsample]
      constructor
      · rintro ⟨hinner, hnull⟩
        exact ⟨hnull, fun other hother => hother ▸ hinner⟩
      · rintro ⟨hnull, hinner⟩
        exact ⟨hinner inner rfl, hnull⟩

/-- To prove a property of every schema, prove it of a schema whose items have it. -/
theorem items_induction
    {motive : Schema → Prop}
    (step : ∀ s, (∀ inner, s.items = some inner → motive inner) → motive s) :
    ∀ s, motive s
  | ⟨type, format, title, description, nullable, readOnly, enumeration, none, properties, sample,
      reference⟩ => step _ (by simp)
  | ⟨type, format, title, description, nullable, readOnly, enumeration, some inner, properties,
      sample, reference⟩ => step _ (by
        intro other hother
        rw [← Option.some.inj hother]
        exact items_induction step inner)

/-! ## The JSON form -/

theorem toText?_textValue (text : Option String) : (textValue text).shape.toText? = .ok text := by
  cases text <;> rfl

theorem ofList_entries {α : Type} (map : OrderedMap α) : OrderedMap.ofList map.entries = map :=
  OrderedMap.ext (OrderedMap.entries_ofList map.nodup_keys)

theorem decode_value
    {s : Schema}
    (hitems : ∀ inner, s.items = some inner → ofJson inner.toJson = .ok inner.normal)
    (field : Field) :
    field.decode (node (s.get field)) = .ok (s.normal.content field) := by
  rw [normal_eq]
  cases field with
  | type => exact toText?_textValue s.type
  | format => exact toText?_textValue s.format
  | title => exact toText?_textValue s.title
  | description => exact toText?_textValue s.description
  | reference => exact toText?_textValue s.reference
  | nullable => rfl
  | readOnly => rfl
  | enumeration => rfl
  | properties => exact congrArg Except.ok (ofList_entries s.properties)
  | sample =>
      change Except.ok (if (s.sample.getD .null).isNull then none else some (s.sample.getD .null)) =
        Except.ok (s.sample.filter fun found => !found.isNull)
      cases s.sample with
      | none => rfl
      | some found => cases found <;> rfl
  | items =>
      change (if ((s.items.map toJson).getD .null).isNull then Except.ok none
        else (ofJson ((s.items.map toJson).getD .null)).map some) = Except.ok (s.items.map normal)
      cases hinner : s.items with
      | none => rfl
      | some inner =>
          have hobject : inner.toJson.isNull = false := by rw [toJson_eq]; rfl
          simp [hobject, hitems inner hinner, Except.map]

theorem content_normal_of_not_shows
    {s : Schema} {field : Field} (h : s.shows field = false) :
    s.normal.content field = field.absent := by
  have hcontent := content_of_not_shows h
  rw [normal_eq]
  cases field with
  | items =>
      have hnone : s.items = none := hcontent
      change s.items.map normal = none
      rw [hnone, Option.map_none]
  | sample =>
      have hnone : s.sample = none := hcontent
      change s.sample.filter _ = none
      rw [hnone, Option.filter_none]
  | _ => exact hcontent

theorem lookup_map_name (field : Field) (fields : List Field) (f : Field → Json) :
    OrderedMap.lookup field.name (fields.map fun other => (other.name, f other)) =
      if field ∈ fields then some (f field) else none := by
  induction fields with
  | nil => rfl
  | cons other rest ih =>
      by_cases h : other = field
      · simp [OrderedMap.lookup, h]
      · have hname : other.name ≠ field.name := fun e => h (Field.name_inj.mp e)
        simp [OrderedMap.lookup, hname, ih, Ne.symm h]

theorem nodup_keys_members (items : Option Json) (s : Schema) :
    ((s.members items).map Prod.fst).Nodup := by
  have hall : (Field.all.map Field.name).Nodup := by decide
  have hkeys : (s.members items).map Prod.fst = (Field.all.filter s.shows).map Field.name := by
    simp [members]
  rw [hkeys]
  exact hall.sublist (List.filter_sublist.map Field.name)

/-- The JSON form of a schema decodes to its normal form. -/
theorem ofJson_toJson (s : Schema) : ofJson s.toJson = .ok s.normal := by
  induction s using items_induction with
  | step s ih =>
      rw [toJson_eq, ofJson_object_eq_ok_iff (nodup_keys_members _ s)]
      intro field
      rw [members, lookup_map_name]
      by_cases hshows : s.shows field = true
      · rw [if_pos (List.mem_filter.mpr ⟨Field.mem_all field, hshows⟩)]
        exact decode_value ih field
      · rw [if_neg fun hmem => hshows (List.mem_filter.mp hmem).2]
        exact content_normal_of_not_shows (eq_false_of_ne_true hshows)

theorem decode_get (s : Schema) (field : Field) :
    field.decode (node (s.get field)) = .ok (s.normal.content field) :=
  decode_value (fun inner _ => ofJson_toJson inner) field

/-! ## What decoding yields -/

/-- The node decodes, if at all, to a normal schema. -/
def Node.IsNormal (found : Node) : Prop := ∀ s, found.schema = .ok s → s.normal = s

theorem schema_of_decode_items
    {found : Node} {inner : Schema} (h : Field.items.decode found = .ok (some inner)) :
    found.schema = .ok inner := by
  change (if found.value.isNull then Except.ok none else found.schema.map some) =
    Except.ok (some inner) at h
  split at h
  · cases h
  · cases hschema : found.schema with
    | error error => simp [hschema, Except.map] at h
    | ok other =>
        rw [hschema] at h
        rw [Option.some.inj (Except.ok.inj h)]

theorem ne_null_of_decode_sample
    {found : Node} {decoded : Option Json} (h : Field.sample.decode found = .ok decoded) :
    decoded ≠ some .null := by
  intro hnull
  rw [← Except.ok.inj h] at hnull
  cases hvalue : found.value <;> simp [hvalue, Json.isNull] at hnull

theorem normal_of_assign
    {found : Node} (hfound : found.IsNormal) {field : Field} {s t : Schema}
    (hs : s.normal = s) (h : assign field found s = .ok t) :
    t.normal = t := by
  rw [normal_eq_self_iff] at hs
  obtain ⟨hsample, hitems⟩ := hs
  rw [assign_eq_map] at h
  cases hdecode : field.decode found with
  | error error => simp [hdecode, Except.map] at h
  | ok decoded =>
      rw [hdecode] at h
      rw [← Except.ok.inj h, normal_eq_self_iff]
      cases field with
      | sample => exact ⟨ne_null_of_decode_sample hdecode, hitems⟩
      | items =>
          refine ⟨hsample, ?_⟩
          intro inner hinner
          change decoded = some inner at hinner
          subst hinner
          exact hfound inner (schema_of_decode_items hdecode)
      | _ => exact ⟨hsample, hitems⟩

mutual

/-- Decoding yields normal schemas only. -/
theorem normal_of_ofJson : ∀ (value : Json) (s : Schema), ofJson value = .ok s → s.normal = s
  | .object members, s, h => by
      refine RecordFormat.takeMembers_invariant (P := fun t => t.normal = t) ?_ rfl h
      intro member hmember field record next
      exact normal_of_assign (isNormal_memberNodes members member hmember)
  | .array elements, s, h => by
      refine RecordFormat.takeFields_invariant (P := fun t => t.normal = t) ?_ rfl h
      intro found hfound field record next
      exact normal_of_assign (isNormal_nodes elements found hfound)
  | .null, _, h => nomatch h
  | .boolean _, _, h => nomatch h
  | .integer _, _, h => nomatch h
  | .float _, _, h => nomatch h
  | .string _, _, h => nomatch h

theorem isNormal_memberNodes :
    ∀ (members : List (String × Json)), ∀ member ∈ memberNodes members, member.2.IsNormal
  | [], _, hmember => nomatch hmember
  | (key, value) :: rest, member, hmember => by
      rcases List.mem_cons.mp hmember with rfl | hrest
      · exact normal_of_ofJson value
      · exact isNormal_memberNodes rest member hrest

theorem isNormal_nodes :
    ∀ (values : List Json), ∀ found ∈ nodes values, found.IsNormal
  | [], _, hfound => nomatch hfound
  | value :: rest, found, hfound => by
      rcases List.mem_cons.mp hfound with rfl | hrest
      · exact normal_of_ofJson value
      · exact isNormal_nodes rest found hrest

end

end Schema

end ValueSchema

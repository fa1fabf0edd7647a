import ValueSchema.Configuration.Decoding
import ValueSchema.Proofs.Schema.Canonical
import ValueSchema.Proofs.Schema.Surface

/-!
# Records as sequences and as members

A record that is written as a sequence decodes as the members that name its first fields in the
order of their declaration, to the same record or to the same error.  A schema holds other schemas
as its items, and the two ways to write them may be exchanged at any depth of these.  The properties
of a schema stand in the order of the declaration too, so what they read as, in a sequence, decodes
to the schema.
-/

namespace ValueSchema

open PropertySurface

namespace RecordFormat

variable {φ ν ρ : Type} {format : RecordFormat φ ν ρ}

/-- A sequence that is not too long decodes as the members that name its fields. -/
theorem takeSequence_eq_takeMembers
    (hfind : ∀ field, format.field? (format.name field) = some field) (record : ρ)
    {values : List ν} (hlength : values.length ≤ format.fields.length) :
    format.takeSequence record values = format.takeMembers record (format.names.zip values) :=
  format.takeFields_eq_takeMembers values.length (fun field _ => hfind field) format.fields record
    values (fun _ => id) hlength

theorem takeFields_append
    (total : Nat) {first second : List φ} {values rest : List ν}
    (hlength : first.length = values.length) (record : ρ) :
    format.takeFields total (first ++ second) record (values ++ rest) =
      (format.takeFields total first record values).bind fun next =>
        format.takeFields total second next rest := by
  induction first generalizing record values with
  | nil =>
      rw [List.length_nil, eq_comm, List.length_eq_zero_iff] at hlength
      subst hlength
      cases second <;> cases rest <;> rfl
  | cons field fields ih =>
      cases values with
      | nil => cases hlength
      | cons value values =>
          have hlength := Nat.succ.inj hlength
          simp only [List.cons_append, takeFields]
          cases format.assign field value record with
          | ok next => exact ih hlength next
          | error error => rfl

end RecordFormat

namespace Schema

/-! ## The two forms -/

theorem ofJson_array_eq_ofJson_object {values : List Json} (hlength : values.length ≤ 11) :
    ofJson (.array values) = ofJson (.object (recordFormat.names.zip values)) := by
  have hnodes : (values.map node).length ≤ recordFormat.fields.length := by
    rwa [List.length_map]
  change recordFormat.takeSequence {} (nodes values) =
    recordFormat.takeMembers {} (memberNodes (recordFormat.names.zip values))
  rw [nodes_eq_map, RecordFormat.takeSequence_eq_takeMembers field?_name {} hnodes,
    memberNodes_eq_map, List.zip_map_right]
  rfl

/-! ## Depth -/

/-- One level of items: what stands around the items of a schema, which are the eighth field. -/
inductive Level where
  | members (before after : List (String × Json))
  | sequence (before after : List Json) (h : before.length = 7)

/-- The schema that has the value as its items. -/
def Level.around : Level → Json → Json
  | members before after, value => .object (before ++ (Field.items.name, value) :: after)
  | sequence before after _, value => .array (before ++ value :: after)

/-- The value with all the levels around it, the first outermost. -/
def nest (levels : List Level) (value : Json) : Json := levels.foldr Level.around value

/-- Items that are not `null` count only for what they decode to. -/
theorem assign_items_congr
    {left right : Json} (h : ofJson left = ofJson right) (hnull : left.isNull = right.isNull)
    (s : Schema) :
    assign .items (node left) s = assign .items (node right) s := by
  have hitems : (node left).items? = (node right).items? := by
    change (if left.isNull then _ else (ofJson left).map _) =
      (if right.isNull then _ else (ofJson right).map _)
    rw [h, hnull]
  exact congrArg (Except.map fun found => { s with items := found }) hitems

theorem Level.ofJson_around_congr
    {left right : Json} (h : ofJson left = ofJson right) (hnull : left.isNull = right.isNull)
    (level : Level) :
    ofJson (level.around left) = ofJson (level.around right) := by
  cases level with
  | members before after =>
      have hmember (s : Schema) : recordFormat.takeMember s (Field.items.name, node left) =
          recordFormat.takeMember s (Field.items.name, node right) :=
        assign_items_congr h hnull s
      change recordFormat.takeMembers {} (memberNodes _) =
        recordFormat.takeMembers {} (memberNodes _)
      simp only [memberNodes_eq_map, List.map_append, List.map_cons,
        RecordFormat.takeMembers_append, RecordFormat.takeMembers, hmember]
  | sequence before after hlength =>
      have hfields : recordFormat.fields =
          Field.all.take 7 ++ .items :: Field.all.drop 8 := rfl
      have hbefore : (Field.all.take 7).length = (before.map node).length := by
        rw [List.length_map, hlength]
        rfl
      have hassign (s : Schema) : recordFormat.assign .items (node left) s =
          recordFormat.assign .items (node right) s := assign_items_congr h hnull s
      change recordFormat.takeSequence {} (nodes _) = recordFormat.takeSequence {} (nodes _)
      simp only [RecordFormat.takeSequence, nodes_eq_map, List.map_append, List.map_cons,
        List.length_append, List.length_cons, hfields, RecordFormat.takeFields_append _ hbefore,
        RecordFormat.takeFields, hassign]

theorem isNull_nest (levels : List Level) {value : Json} (h : value.isNull = false) :
    (nest levels value).isNull = false := by
  cases levels with
  | nil => exact h
  | cons level rest => cases level <;> rfl

/-- Values that decode alike may be exchanged at every depth. -/
theorem ofJson_nest_congr
    {left right : Json} (h : ofJson left = ofJson right) (hleft : left.isNull = false)
    (hright : right.isNull = false) (levels : List Level) :
    ofJson (nest levels left) = ofJson (nest levels right) := by
  induction levels with
  | nil => exact h
  | cons level rest ih =>
      have hnull : (nest rest left).isNull = (nest rest right).isNull := by
        rw [isNull_nest rest hleft, isNull_nest rest hright]
      exact level.ofJson_around_congr ih hnull

/-! ## The properties as a sequence -/

theorem map_get?_properties (s : Schema) :
    (PropertySurface.properties s).map (fun d => get? s d.name) =
      (Field.all.map s.get).map some := by
  change descriptors.map _ = _
  rw [descriptors_eq, List.map_map, List.map_map]
  exact List.map_congr_left fun field _ => get?_name s field

theorem ofJson_array_get (s : Schema) :
    ofJson (.array (Field.all.map s.get)) = .ok s.normal := by
  have hmembers : recordFormat.names.zip (Field.all.map s.get) =
      Field.all.map fun field => (field.name, s.get field) := rfl
  have hnodup : ((Field.all.map fun field => (field.name, s.get field)).map Prod.fst).Nodup := by
    rw [List.map_map]
    change (Field.all.map Field.name).Nodup
    decide
  have hlength : (Field.all.map s.get).length ≤ 11 := Nat.le_of_eq (List.length_map _)
  rw [ofJson_array_eq_ofJson_object hlength, hmembers, ofJson_object_eq_ok_iff hnodup]
  intro field
  rw [lookup_map_name, if_pos (Field.mem_all field)]
  exact decode_get s field

end Schema

theorem Configuration.ofJson_array_eq_ofJson_object
    {values : List Json} (hlength : values.length ≤ 4) :
    ofJson (.array values) = ofJson (.object (format.names.zip values)) := by
  have hshapes : (values.map Json.shape).length ≤ format.fields.length := by
    rwa [List.length_map]
  change format.takeSequence default (values.map Json.shape) =
    format.takeMembers default ((format.names.zip values).map _)
  rw [RecordFormat.takeSequence_eq_takeMembers field?_name default hshapes, List.zip_map_right]
  rfl

/-- A sequence means the same as the members that name the first fields: for schemas at every depth
of the items, and for configurations.  A decoded schema is the meaning of the sequence of what its
properties read as. -/
theorem sequences_mean_members :
    (∀ (levels : List Schema.Level) (values : List Json), values.length ≤ 11 →
      Schema.ofJson (Schema.nest levels (.array values)) =
        Schema.ofJson
          (Schema.nest levels (.object (Schema.recordFormat.names.zip values)))) ∧
    (∀ values : List Json, values.length ≤ 4 →
      Configuration.ofJson (.array values) =
        Configuration.ofJson (.object (Configuration.format.names.zip values))) ∧
    ∀ (value : Json) (s : Schema), Schema.ofJson value = .ok s →
      ∃ reads, (properties s).map (fun d => get? s d.name) = reads.map some ∧
        Schema.ofJson (.array reads) = .ok s := by
  refine ⟨?_, fun values => Configuration.ofJson_array_eq_ofJson_object, ?_⟩
  · intro levels values hlength
    have hforms := Schema.ofJson_array_eq_ofJson_object hlength
    exact Schema.ofJson_nest_congr hforms rfl rfl levels
  · intro value s h
    refine ⟨Schema.Field.all.map s.get, Schema.map_get?_properties s, ?_⟩
    rw [Schema.ofJson_array_get, Schema.normal_of_ofJson value s h]

/-- The innermost of three schemas is a sequence, inside a sequence inside members; a second one
there does not decode, and fails like its members. -/
theorem sequences_mean_members_two_levels_down :
    let levels : List Schema.Level :=
      [.members [("type", .string "array"), ("x-note", .null)] [("nullable", .boolean true)],
        .sequence [.string "array", .null, .null, .null, .boolean false, .boolean true, .array []]
          [.object []] rfl]
    let inner : Schema := { type := some "string", format := some "uuid" }
    let middle : Schema := { type := some "array", readOnly := true, items := some inner }
    let s : Schema := { type := some "array", nullable := true, items := some middle }
    Schema.ofJson (Schema.nest levels (.array [.string "string", .string "uuid"])) = .ok s ∧
      Schema.ofJson (Schema.nest levels (.array [.string "string", .integer 5])) =
        .error (.invalidType (.integer 5) .string) ∧
      Configuration.ofJson (.array [.integer 1, .string "Shop.Api"]) =
        .ok { customization := some .schemaFilter, enclosingNamespace := some "Shop.Api" } ∧
      ∃ reads, (properties s).map (fun d => get? s d.name) = reads.map some ∧
        Schema.ofJson (.array reads) = .ok s := by
  intro levels inner middle s
  obtain ⟨hschema, hconfiguration, hreads⟩ := sequences_mean_members
  have hs := hschema levels [.string "string", .string "uuid"] (by decide)
  have herror := hschema levels [.string "string", .integer 5] (by decide)
  have hc := hconfiguration [.integer 1, .string "Shop.Api"] (by decide)
  exact ⟨hs.trans rfl, herror.trans rfl, hc.trans rfl, hreads _ s (hs.trans rfl)⟩

end ValueSchema

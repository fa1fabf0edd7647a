import ValueSchema.Configuration.Document
import ValueSchema.Proofs.Decoding.Fields
import ValueSchema.Proofs.OrderedMap

/-!
# Entries of a configuration document

What configuration the entries of a root table describe, said key by key.  The main statement is
`ofMembers_eq_ok_iff`: decoding finds just the configuration that the entries describe.  Since no
condition mentions the order of the entries, decoding does not depend on it.
-/

namespace ValueSchema.Configuration

/-! ## What entries describe -/

/-- A value selects the customization whose flag it is, or whose name it spells. -/
inductive Selects : Toml.Value → Customization → Prop where
  | flag (choice : Customization) : Selects (.integer choice.flag) choice
  | name {text : String} {choice : Customization} (h : Customization.parse text = .ok choice) :
      Selects (.string text) choice

/-- The entries hold the settings of the configuration, each under its key, and nothing else. -/
structure Describes (entries : List (String × Toml.Value)) (c : Configuration) : Prop where
  keys : ∀ entry ∈ entries,
    entry.1 ∈ ["customizations", "namespace", "generator_name", "generator_version"]
  customization :
    Option.Rel Selects (OrderedMap.lookup "customizations" entries) c.customization
  enclosingNamespace :
    OrderedMap.lookup "namespace" entries = c.enclosingNamespace.map Toml.Value.string
  generatorName :
    OrderedMap.lookup "generator_name" entries = c.generatorName.map Toml.Value.string
  generatorVersion :
    OrderedMap.lookup "generator_version" entries = c.generatorVersion.map Toml.Value.string

theorem Describes.perm
    {entries others : List (String × Toml.Value)} {c : Configuration}
    (h : Describes entries c) (hperm : entries.Perm others)
    (hnodup : (entries.map Prod.fst).Nodup) :
    Describes others c := by
  have hlookup := OrderedMap.lookup_perm hperm hnodup
  exact {
    keys := fun entry hentry => h.keys entry (hperm.mem_iff.mpr hentry)
    customization := hlookup "customizations" ▸ h.customization
    enclosingNamespace := hlookup "namespace" ▸ h.enclosingNamespace
    generatorName := hlookup "generator_name" ▸ h.generatorName
    generatorVersion := hlookup "generator_version" ▸ h.generatorVersion }

/-! ## One setting at a time -/

/-- What a setting holds. -/
def Content : Setting → Type
  | .customization => Option Customization
  | .enclosingNamespace | .generatorName | .generatorVersion => Option String

def decode (setting : Setting) (found : Shape) : Except DecodeError (Content setting) :=
  match setting with
  | .customization =>
    match found with
    | .null => .ok none
    | found => (Customization.ofShape found).map some
  | .enclosingNamespace | .generatorName | .generatorVersion => found.toText?

theorem decode_customization {found : Shape} (h : found ≠ .null) :
    decode .customization found = (Customization.ofShape found).map some := by
  cases found <;> first | rfl | exact absurd rfl h

/-- Configurations decode setting by setting. -/
def fieldwise : format.Fieldwise Content where
  content c
    | .customization => c.customization
    | .enclosingNamespace => c.enclosingNamespace
    | .generatorName => c.generatorName
    | .generatorVersion => c.generatorVersion
  replace c
    | .customization, found => { c with customization := found }
    | .enclosingNamespace, found => { c with enclosingNamespace := found }
    | .generatorName, found => { c with generatorName := found }
    | .generatorVersion, found => { c with generatorVersion := found }
  decode := decode
  assign_eq_map setting found c := by
    cases setting with
    | customization =>
        by_cases hnull : found = .null
        · subst hnull
          rfl
        · have hassign : assign .customization found c =
              (Customization.ofShape found).map fun choice =>
                { c with customization := some choice } := by
            cases found <;> first | rfl | exact absurd rfl hnull
          change assign .customization found c = _
          rw [hassign, decode_customization hnull]
          cases Customization.ofShape found <;> rfl
    | _ => rfl
  content_replace_self c setting found := by
    cases setting <;> rfl
  content_replace_of_ne c setting other found h := by
    cases setting <;> cases other <;> first | rfl | exact absurd rfl h
  ext_content h :=
    Configuration.ext (h .customization) (h .enclosingNamespace) (h .generatorName)
      (h .generatorVersion)
  field?_name := field?_name

/-! ## Decoding -/

theorem mapError_eq_ok_iff
    {α ε δ : Type} {f : ε → δ} {result : Except ε α} {value : α} :
    result.mapError f = .ok value ↔ result = .ok value := by
  cases result <;> simp [Except.mapError]

theorem ofShape_eq_ok_iff {value : Toml.Value} {choice : Customization} :
    Customization.ofShape value.shape = .ok choice ↔ Selects value choice := by
  constructor
  · intro h
    cases value with
    | integer n =>
        change (if Text.isInt64 n then _ else _) = _ at h
        split at h
        · obtain rfl := Customization.ofFlag_eq_ok_iff.mp (mapError_eq_ok_iff.mp h)
          exact .flag choice
        · cases h
    | string text => exact .name (mapError_eq_ok_iff.mp h)
    | _ => cases h
  · intro h
    cases h with
    | flag => cases choice <;> rfl
    | name h => exact mapError_eq_ok_iff.mpr h

theorem reads_customization_iff
    {value : Option Toml.Value} {found : Option Customization} :
    RecordFormat.Reads (decode .customization) none (value.map Toml.Value.shape) found ↔
      Option.Rel Selects value found := by
  cases value with
  | none =>
      constructor
      · rintro rfl
        exact .none
      · rintro ⟨⟩
        rfl
  | some value =>
      have hnull : value.shape ≠ .null := by
        cases value <;> nofun
      change decode .customization value.shape = .ok found ↔ _
      rw [decode_customization hnull]
      constructor
      · intro h
        cases hchoice : Customization.ofShape value.shape with
        | error error =>
            rw [hchoice] at h
            cases h
        | ok choice =>
            rw [hchoice] at h
            rw [← Except.ok.inj h]
            exact .some (ofShape_eq_ok_iff.mp hchoice)
      · intro h
        cases h with
        | some hselects =>
            rw [ofShape_eq_ok_iff.mpr hselects]
            rfl

theorem reads_text_iff
    {value : Option Toml.Value} {found : Option String} :
    RecordFormat.Reads Shape.toText? none (value.map Toml.Value.shape) found ↔
      value = found.map Toml.Value.string := by
  cases value with
  | none => cases found <;> simp [RecordFormat.Reads]
  | some value =>
      change value.shape.toText? = .ok found ↔ _
      cases value <;> cases found <;>
        simp [Toml.Value.shape, Shape.toText?, Shape.toText, Except.map]

theorem field?_eq_none_iff {key : String} :
    format.field? key = none ↔
      key ∉ ["customizations", "namespace", "generator_name", "generator_version"] := by
  have hnames : ["customizations", "namespace", "generator_name", "generator_version"] =
      Setting.all.map Setting.name := rfl
  rw [RecordFormat.field?, List.find?_eq_none, hnames, List.mem_map]
  simp [format]

/-- Decoding finds the configuration that the entries describe. -/
theorem ofMembers_eq_ok_iff
    {entries : List (String × Toml.Value)} (hnodup : (entries.map Prod.fst).Nodup)
    {c : Configuration} :
    ofMembers (entries.map fun entry => (entry.1, entry.2.shape)) = .ok c ↔
      Describes entries c := by
  have hkeys : ((entries.map fun entry => (entry.1, entry.2.shape)).map Prod.fst).Nodup := by
    rwa [OrderedMap.keys_map Toml.Value.shape]
  rw [ofMembers, fieldwise.takeMembers_eq_ok_iff hkeys]
  simp only [OrderedMap.lookup_map]
  constructor
  · rintro ⟨hknown, hreads⟩
    refine ⟨?_, reads_customization_iff.mp (hreads .customization), ?_, ?_, ?_⟩
    · intro entry hentry
      by_contra hkey
      cases hknown _ (List.mem_map_of_mem hentry) (field?_eq_none_iff.mpr hkey)
    · exact reads_text_iff.mp (hreads .enclosingNamespace)
    · exact reads_text_iff.mp (hreads .generatorName)
    · exact reads_text_iff.mp (hreads .generatorVersion)
  · intro h
    constructor
    · intro member hmember hnone
      obtain ⟨entry, hentry, rfl⟩ := List.mem_map.mp hmember
      exact absurd (h.keys entry hentry) (field?_eq_none_iff.mp hnone)
    · intro setting
      cases setting with
      | customization => exact reads_customization_iff.mpr h.customization
      | enclosingNamespace => exact reads_text_iff.mpr h.enclosingNamespace
      | generatorName => exact reads_text_iff.mpr h.generatorName
      | generatorVersion => exact reads_text_iff.mpr h.generatorVersion

end ValueSchema.Configuration

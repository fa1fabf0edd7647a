import ValueSchema.Proofs.Configuration.Entries
import ValueSchema.Proofs.Configuration.Validity
import ValueSchema.Proofs.Toml.Keys

/-!
# Loading configurations

A text is loaded just when it is a document whose root table describes a configuration and that
configuration is valid.  Otherwise the first stage that fails is to blame: reading and decoding come
before validation, and validation looks at the namespace, the name and the version in this order.
All that matters of the reader is that it yields no key twice, so the statements are proved for any
such reader (`load_accepts_exactly`) and hold of TOML documents.
-/

namespace ValueSchema

/-- What an error tells apart from its message. -/
inductive ConfigurationError.Kind where
  /-- The text is no document, or one of its entries does not decode. -/
  | parse
  | unknownCustomization
  | invalidNamespace
  | blank (setting : Setting)
  deriving DecidableEq

def ConfigurationError.kind : ConfigurationError → Kind
  | malformed => .parse
  | undecodable _ => .parse
  | unknownCustomization _ => .unknownCustomization
  | invalidNamespace _ => .invalidNamespace
  | blank setting => .blank setting

namespace Configuration

variable {read? : String → Option (List (String × Toml.Value))}
  {text other : String} {c d : Configuration} {kind : ConfigurationError.Kind}

/-- The text is read as entries that describe the configuration. -/
def WritesIn (read? : String → Option (List (String × Toml.Value))) (text : String)
    (c : Configuration) : Prop :=
  ∃ entries, read? text = some entries ∧ Describes entries c

/-- The text is a document whose root table describes the configuration. -/
def Writes (text : String) (c : Configuration) : Prop := WritesIn Toml.read? text c

/-- The configuration that is loaded from a text, or the kind of the error. -/
def outcomeIn (read? : String → Option (List (String × Toml.Value))) (text : String) :
    Except ConfigurationError.Kind Configuration :=
  (load read? text).mapError ConfigurationError.kind

def outcome (text : String) : Except ConfigurationError.Kind Configuration :=
  outcomeIn Toml.read? text

/-- What is read has each key once. -/
def ReadsKeysOnce (read? : String → Option (List (String × Toml.Value))) : Prop :=
  ∀ {text : String} {entries : List (String × Toml.Value)},
    read? text = some entries → (entries.map Prod.fst).Nodup

/-! ## The stages -/

theorem load_of_writes (hkeys : ReadsKeysOnce read?) (h : WritesIn read? text c) :
    load read? text = c.validated := by
  obtain ⟨entries, hread, hdescribes⟩ := h
  have hmembers := (ofMembers_eq_ok_iff (hkeys hread)).mpr hdescribes
  simp only [load, hread, ofEntries, hmembers]

theorem outcome_of_not_writes (hkeys : ReadsKeysOnce read?) (h : ∀ c, ¬ WritesIn read? text c) :
    outcomeIn read? text = .error .parse := by
  rw [outcomeIn, load]
  cases hread : read? text with
  | none => rfl
  | some entries =>
      change (ofEntries entries).mapError ConfigurationError.kind = _
      rw [ofEntries]
      cases hmembers : ofMembers (entries.map fun entry => (entry.1, entry.2.shape)) with
      | error cause => rfl
      | ok c =>
          have hdescribes := (ofMembers_eq_ok_iff (hkeys hread)).mp hmembers
          exact absurd ⟨entries, hread, hdescribes⟩ (h c)

theorem writes_unique
    (hkeys : ReadsKeysOnce read?) (hc : WritesIn read? text c) (hd : WritesIn read? text d) :
    c = d := by
  obtain ⟨entries, hread, hdescribes⟩ := hc
  obtain ⟨others, hothers, hothersDescribe⟩ := hd
  obtain rfl : entries = others := Option.some.inj (hread.symm.trans hothers)
  have hmembers := (ofMembers_eq_ok_iff (hkeys hread)).mpr hdescribes
  rw [(ofMembers_eq_ok_iff (hkeys hread)).mpr hothersDescribe] at hmembers
  exact (Except.ok.inj hmembers).symm

theorem outcome_congr
    (hkeys : ReadsKeysOnce read?) (h : ∀ c, WritesIn read? text c ↔ WritesIn read? other c) :
    outcomeIn read? text = outcomeIn read? other := by
  by_cases hwrites : ∃ c, WritesIn read? text c
  · obtain ⟨c, hc⟩ := hwrites
    rw [outcomeIn, outcomeIn, load_of_writes hkeys hc, load_of_writes hkeys ((h c).mp hc)]
  · rw [not_exists] at hwrites
    rw [outcome_of_not_writes hkeys hwrites,
      outcome_of_not_writes hkeys fun c => mt (h c).mpr (hwrites c)]

/-! ## The kind of the error -/

theorem mapError_validated_eq_error_iff :
    c.validated.mapError ConfigurationError.kind = .error kind ↔
      (¬ c.NamespaceIsName ∧ kind = .invalidNamespace) ∨
      (c.NamespaceIsName ∧ ¬ c.NameHasText ∧ kind = .blank .generatorName) ∨
      (c.NamespaceIsName ∧ c.NameHasText ∧ ¬ c.VersionHasText ∧
        kind = .blank .generatorVersion) := by
  have hkind : c.validated.mapError ConfigurationError.kind = .error kind ↔
      ∃ error, c.fault? = some error ∧ kind = error.kind := by
    rw [validated]
    cases c.fault? <;> simp [Except.mapError, eq_comm]
  have hnamespace : ¬ c.NamespaceIsName ↔
      ∃ text, c.enclosingNamespace = some text ∧ CSharp.isQualifiedName text = false := by
    simp [NamespaceIsName]
  rw [hkind, hnamespace]
  constructor
  · rintro ⟨error, hfault, rfl⟩
    obtain ⟨text, htext, hname, rfl⟩ | ⟨hns, hname, rfl⟩ | ⟨hns, hname, hversion, rfl⟩ :=
      fault?_eq_some_iff.mp hfault
    · exact Or.inl ⟨⟨text, htext, hname⟩, rfl⟩
    · exact Or.inr (Or.inl ⟨hns, hname, rfl⟩)
    · exact Or.inr (Or.inr ⟨hns, hname, hversion, rfl⟩)
  · rintro (⟨⟨text, htext, hname⟩, rfl⟩ | ⟨hns, hname, rfl⟩ | ⟨hns, hname, hversion, rfl⟩)
    · exact ⟨_, fault?_eq_some_iff.mpr (Or.inl ⟨text, htext, hname, rfl⟩), rfl⟩
    · exact ⟨_, fault?_eq_some_iff.mpr (Or.inr (Or.inl ⟨hns, hname, rfl⟩)), rfl⟩
    · exact ⟨_, fault?_eq_some_iff.mpr (Or.inr (Or.inr ⟨hns, hname, hversion, rfl⟩)), rfl⟩

/-- An error either says that no configuration is written, or is the fault of the one that is. -/
theorem outcome_eq_error_iff (hkeys : ReadsKeysOnce read?) :
    outcomeIn read? text = .error kind ↔
      ((∀ c, ¬ WritesIn read? text c) ∧ kind = .parse) ∨
      ∃ c, WritesIn read? text c ∧ c.validated.mapError ConfigurationError.kind = .error kind := by
  by_cases hwrites : ∃ c, WritesIn read? text c
  · obtain ⟨c, hc⟩ := hwrites
    rw [outcomeIn, load_of_writes hkeys hc]
    constructor
    · intro h
      exact Or.inr ⟨c, hc, h⟩
    · rintro (⟨hnone, -⟩ | ⟨d, hd, h⟩)
      · exact absurd hc (hnone c)
      · rwa [writes_unique hkeys hc hd]
  · rw [not_exists] at hwrites
    rw [outcome_of_not_writes hkeys hwrites, Except.error.injEq]
    constructor
    · rintro rfl
      exact Or.inl ⟨hwrites, rfl⟩
    · rintro (⟨-, rfl⟩ | ⟨c, hc, -⟩)
      · rfl
      · exact absurd hc (hwrites c)

theorem load_eq_ok_iff (hkeys : ReadsKeysOnce read?) :
    load read? text = .ok c ↔ WritesIn read? text c ∧ c.IsValid := by
  constructor
  · intro h
    by_cases hwrites : ∃ d, WritesIn read? text d
    · obtain ⟨d, hd⟩ := hwrites
      rw [load_of_writes hkeys hd, validated_eq_ok_iff] at h
      obtain ⟨hvalid, rfl⟩ := h
      exact ⟨hd, hvalid⟩
    · rw [not_exists] at hwrites
      have houtcome := outcome_of_not_writes hkeys hwrites
      rw [outcomeIn, h] at houtcome
      cases houtcome
  · rintro ⟨hwrites, hvalid⟩
    rw [load_of_writes hkeys hwrites, validated_eq_ok_iff]
    exact ⟨hvalid, rfl⟩

/-! ## What is accepted, and what is to blame -/

theorem writes_perm
    (hkeys : ReadsKeysOnce read?) {entries others : List (String × Toml.Value)}
    (htext : read? text = some entries) (hother : read? other = some others)
    (hperm : entries.Perm others) (h : WritesIn read? text c) :
    WritesIn read? other c := by
  obtain ⟨found, hfound, hdescribes⟩ := h
  obtain rfl : entries = found := Option.some.inj (htext.symm.trans hfound)
  exact ⟨others, hother, hdescribes.perm hperm (hkeys htext)⟩

/-- With any reader of unique keys, loading accepts exactly the texts whose entries describe a valid
configuration. -/
theorem load_accepts_exactly (hkeys : ReadsKeysOnce read?) (text : String) :
    (∀ c, load read? text = .ok c ↔
      WritesIn read? text c ∧ c.NamespaceIsName ∧ c.NameHasText ∧ c.VersionHasText) ∧
    (outcomeIn read? text = .error .parse ↔ ∀ c, ¬ WritesIn read? text c) ∧
    (outcomeIn read? text = .error .invalidNamespace ↔
      ∃ c, WritesIn read? text c ∧ ¬ c.NamespaceIsName) ∧
    (outcomeIn read? text = .error (.blank .generatorName) ↔
      ∃ c, WritesIn read? text c ∧ c.NamespaceIsName ∧ ¬ c.NameHasText) ∧
    (outcomeIn read? text = .error (.blank .generatorVersion) ↔
      ∃ c, WritesIn read? text c ∧ c.NamespaceIsName ∧ c.NameHasText ∧ ¬ c.VersionHasText) ∧
    (∀ other entries others, read? text = some entries → read? other = some others →
      entries.Perm others → outcomeIn read? other = outcomeIn read? text) ∧
    ∀ c, load read? text = .ok c → c.validated = .ok c := by
  refine ⟨?_, ?_, ?_, ?_, ?_, ?_, ?_⟩
  · intro c
    rw [load_eq_ok_iff hkeys, isValid_iff_hasText]
  · simp [outcome_eq_error_iff hkeys, mapError_validated_eq_error_iff]
  · simp [outcome_eq_error_iff hkeys, mapError_validated_eq_error_iff]
  · simp [outcome_eq_error_iff hkeys, mapError_validated_eq_error_iff]
  · simp [outcome_eq_error_iff hkeys, mapError_validated_eq_error_iff]
  · intro other entries others htext hother hperm
    refine outcome_congr hkeys fun c => ⟨?_, ?_⟩
    · exact writes_perm hkeys hother htext hperm.symm
    · exact writes_perm hkeys htext hother hperm
  · intro c h
    exact validated_eq_ok_iff.mpr ⟨isValid_of_load h, rfl⟩

/-- Loading accepts exactly the documents whose entries describe a valid configuration, and yields
that configuration.  Of anything else it blames the first stage that fails, and neither the
configuration nor the kind of the error depends on the order of the entries. -/
theorem ofToml_accepts_exactly (text : String) :
    (∀ c, ofToml text = .ok c ↔
      Writes text c ∧ c.NamespaceIsName ∧ c.NameHasText ∧ c.VersionHasText) ∧
    (outcome text = .error .parse ↔ ∀ c, ¬ Writes text c) ∧
    (outcome text = .error .invalidNamespace ↔ ∃ c, Writes text c ∧ ¬ c.NamespaceIsName) ∧
    (outcome text = .error (.blank .generatorName) ↔
      ∃ c, Writes text c ∧ c.NamespaceIsName ∧ ¬ c.NameHasText) ∧
    (outcome text = .error (.blank .generatorVersion) ↔
      ∃ c, Writes text c ∧ c.NamespaceIsName ∧ c.NameHasText ∧ ¬ c.VersionHasText) ∧
    (∀ other entries others, Toml.read? text = some entries → Toml.read? other = some others →
      entries.Perm others → outcome other = outcome text) ∧
    ∀ c, ofToml text = .ok c → c.validated = .ok c :=
  load_accepts_exactly Toml.nodup_keys_of_read? text

set_option maxRecDepth 4000 in
/-- Of two faults, in either order, the namespace is to blame; and what is loaded is valid. -/
theorem ofToml_accepts_exactly_of_swapped :
    outcome "generator_name = ' '\nnamespace = 'Shop Api'" = .error .invalidNamespace ∧
    outcome "namespace = 'Shop Api'\ngenerator_name = ' '" = .error .invalidNamespace ∧
    ofToml "namespace = 'Shop.Api'\ncustomizations = 2" =
      .ok ⟨some .mappingExtension, some "Shop.Api", none, none⟩ ∧
    validated ⟨some .mappingExtension, some "Shop.Api", none, none⟩ =
      .ok ⟨some .mappingExtension, some "Shop.Api", none, none⟩ := by
  have hread : Toml.read? "generator_name = ' '\nnamespace = 'Shop Api'" =
      some [("generator_name", .string " "), ("namespace", .string "Shop Api")] := rfl
  have hswapped : Toml.read? "namespace = 'Shop Api'\ngenerator_name = ' '" =
      some [("namespace", .string "Shop Api"), ("generator_name", .string " ")] := rfl
  have hwrites : Writes "generator_name = ' '\nnamespace = 'Shop Api'"
      ⟨none, some "Shop Api", some " ", none⟩ :=
    ⟨_, hread, ⟨by decide, .none, rfl, rfl, rfl⟩⟩
  have hname : ¬ NamespaceIsName ⟨none, some "Shop Api", some " ", none⟩ := by
    intro h
    exact absurd (h _ rfl) (by decide +kernel)
  obtain ⟨-, -, hnamespace, -, -, hreorder, -⟩ :=
    ofToml_accepts_exactly "generator_name = ' '\nnamespace = 'Shop Api'"
  have houtcome := hnamespace.mpr ⟨_, hwrites, hname⟩
  have hvalidRead : Toml.read? "namespace = 'Shop.Api'\ncustomizations = 2" =
      some [("namespace", .string "Shop.Api"), ("customizations", .integer 2)] := rfl
  have hloaded : ofToml "namespace = 'Shop.Api'\ncustomizations = 2" =
      .ok ⟨some .mappingExtension, some "Shop.Api", none, none⟩ := by
    rw [ofToml, load, hvalidRead]
    rfl
  obtain ⟨-, -, -, -, -, -, hvalid⟩ :=
    ofToml_accepts_exactly "namespace = 'Shop.Api'\ncustomizations = 2"
  refine ⟨houtcome, ?_, hloaded, hvalid _ hloaded⟩
  exact (hreorder _ _ _ hread hswapped (List.Perm.swap _ _ _)).trans houtcome

end Configuration

end ValueSchema

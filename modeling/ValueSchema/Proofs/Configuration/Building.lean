import ValueSchema.Configuration.Document
import ValueSchema.Proofs.Attempts
import ValueSchema.Proofs.Configuration.Validity

/-!
# Building configurations

A configuration is built from a valid one by steps that set the namespace or the generator.  A step
checks the whole configuration, but validity is an invariant of building: thus a step is refused for
its own texts only, and steps of one kind do not interfere with those of the other.
-/

namespace ValueSchema.Configuration

variable {c next : Configuration} {text name version : String} {error : ConfigurationError}

/-! ## Steps -/

/-- A step sets the namespace, or the name and version of the generator. -/
inductive BuildStep where
  | enclosingNamespace (text : String)
  | generator (name version : String)

namespace BuildStep

def apply (c : Configuration) : BuildStep → Except ConfigurationError Configuration
  | enclosingNamespace text => c.withNamespace text
  | generator name version => c.withGenerator name version

def namespace? : BuildStep → Option String
  | enclosingNamespace text => some text
  | generator _ _ => none

def generator? : BuildStep → Option (String × String)
  | enclosingNamespace _ => none
  | generator name version => some (name, version)

end BuildStep

/-- Building starts from no settings, from a customization alone or from a document. -/
inductive IsStart : Configuration → Prop where
  | default : IsStart default
  | ofCustomization (choice : Customization) : IsStart (ofCustomization choice)
  | ofToml {text : String} {c : Configuration} (h : ofToml text = .ok c) : IsStart c

theorem IsStart.isValid (h : c.IsStart) : c.IsValid := by
  cases h with
  | default => exact isValid_default
  | ofCustomization choice => exact isValid_ofCustomization choice
  | ofToml h => exact isValid_of_load h

/-! ## One step -/

theorem IsValid.withNamespace_eq_error_iff (h : c.IsValid) :
    c.withNamespace text = .error error ↔
      CSharp.isQualifiedName text = false ∧ error = .invalidNamespace text := by
  obtain ⟨-, hname, hversion⟩ := isValid_iff_hasText.mp h
  have hkeepsName : NameHasText { c with enclosingNamespace := some text } := hname
  have hkeepsVersion : VersionHasText { c with enclosingNamespace := some text } := hversion
  rw [withNamespace, validated_eq_error_iff, fault?_eq_some_iff]
  simp [hkeepsName, hkeepsVersion]

theorem IsValid.withGenerator_eq_error_iff (h : c.IsValid) :
    c.withGenerator name version = .error error ↔
      (Unicode.isBlank name = true ∧ error = .blank .generatorName) ∨
      (Unicode.isBlank name = false ∧ Unicode.isBlank version = true ∧
        error = .blank .generatorVersion) := by
  obtain ⟨hnamespace, -, -⟩ := isValid_iff_hasText.mp h
  let changed : Configuration :=
    { c with generatorName := some name, generatorVersion := some version }
  have hkeepsNamespace : changed.NamespaceIsName := hnamespace
  have hname : changed.NameHasText ↔ Unicode.isBlank name = false := by
    simp [changed, NameHasText, isBlank_eq_false_iff]
  have hversion : changed.VersionHasText ↔ Unicode.isBlank version = false := by
    simp [changed, VersionHasText, isBlank_eq_false_iff]
  have hnotNamespace : ¬ ∃ text, changed.enclosingNamespace = some text ∧
      CSharp.isQualifiedName text = false ∧ error = .invalidNamespace text := by
    rintro ⟨text, htext, hfault, -⟩
    rw [hnamespace text htext] at hfault
    cases hfault
  change changed.validated = _ ↔ _
  rw [validated_eq_error_iff, fault?_eq_some_iff, or_iff_right hnotNamespace, hname, hversion]
  simp [hkeepsNamespace]

namespace BuildStep

/-- The texts of a step are ones that a valid configuration can hold. -/
def fits : BuildStep → Bool
  | enclosingNamespace text => CSharp.isQualifiedName text
  | generator name version => !Unicode.isBlank name && !Unicode.isBlank version

theorem isValid_of_apply {step : BuildStep} (h : step.apply c = .ok next) : next.IsValid := by
  cases step <;> exact (validated_eq_ok_iff.mp h).2 ▸ (validated_eq_ok_iff.mp h).1

/-- What an accepted step has done: it has set what it names, and has left the rest alone. -/
theorem fields_of_apply {step : BuildStep} (h : step.apply c = .ok next) :
    next.customization = c.customization ∧
    next.enclosingNamespace = step.namespace?.or c.enclosingNamespace ∧
    next.generatorName = (step.generator?.map Prod.fst).or c.generatorName ∧
    next.generatorVersion = (step.generator?.map Prod.snd).or c.generatorVersion := by
  cases step <;> rw [(validated_eq_ok_iff.mp h).2] <;> exact ⟨rfl, rfl, rfl, rfl⟩

theorem apply_accepts_iff (h : c.IsValid) (step : BuildStep) :
    (∃ next, step.apply c = .ok next) ↔ step.fits = true := by
  have haccepts (result : Except ConfigurationError Configuration) :
      (∃ next, result = .ok next) ↔ ∀ error, result ≠ .error error := by
    cases result <;> simp
  rw [haccepts]
  cases step with
  | enclosingNamespace text =>
      change (∀ error, c.withNamespace text ≠ .error error) ↔ _
      simp [h.withNamespace_eq_error_iff, fits]
  | generator name version =>
      change (∀ error, c.withGenerator name version ≠ .error error) ↔ _
      cases hname : Unicode.isBlank name <;> cases hversion : Unicode.isBlank version <;>
        simp [h.withGenerator_eq_error_iff, fits, hname, hversion]

end BuildStep

/-! ## A run of steps -/

variable {start : Configuration}

/-- Validity is an invariant of building. -/
theorem IsValid.run (h : start.IsValid) (steps : List BuildStep) :
    (Attempts.run BuildStep.apply start steps).IsValid :=
  Attempts.run_invariant (fun _ _ _ _ hnext => BuildStep.isValid_of_apply hnext) h steps

theorem IsValid.accepted (h : start.IsValid) (steps : List BuildStep) :
    Attempts.accepted BuildStep.apply start steps = steps.filter BuildStep.fits :=
  Attempts.accepted_eq_filter (P := IsValid)
    (fun _ _ _ _ hnext => BuildStep.isValid_of_apply hnext)
    (fun _ step hcurrent => BuildStep.apply_accepts_iff hcurrent step) h steps

theorem filterMap_namespace?_filter_fits (steps : List BuildStep) :
    (steps.filter BuildStep.fits).filterMap BuildStep.namespace? =
      (steps.filterMap BuildStep.namespace?).filter CSharp.isQualifiedName := by
  rw [List.filterMap_filter, List.filter_filterMap]
  congr 1
  funext step
  cases step with
  | enclosingNamespace text => rfl
  | generator name version => exact ite_self none

theorem filterMap_generator?_filter_fits (steps : List BuildStep) :
    (steps.filter BuildStep.fits).filterMap BuildStep.generator? =
      (steps.filterMap BuildStep.generator?).filter fun generator =>
        !Unicode.isBlank generator.1 && !Unicode.isBlank generator.2 := by
  rw [List.filterMap_filter, List.filter_filterMap]
  congr 1
  funext step
  cases step with
  | enclosingNamespace text => exact ite_self none
  | generator name version => rfl

/-- What a run leaves: each kind of step has set what its last accepted step names. -/
theorem fields_of_run (start : Configuration) (steps : List BuildStep) :
    let built := Attempts.run BuildStep.apply start steps
    let accepted := Attempts.accepted BuildStep.apply start steps
    let generator? := (accepted.filterMap BuildStep.generator?).getLast?
    built.customization = start.customization ∧
    built.enclosingNamespace =
      (accepted.filterMap BuildStep.namespace?).getLast?.or start.enclosingNamespace ∧
    built.generatorName = (generator?.map Prod.fst).or start.generatorName ∧
    built.generatorVersion = (generator?.map Prod.snd).or start.generatorVersion := by
  intro built accepted generator?
  refine ⟨?_, ?_, ?_, ?_⟩
  · refine Attempts.view_run_of_kept Configuration.customization ?_ steps
    intro current step next hnext
    exact (BuildStep.fields_of_apply hnext).1
  · have hnamespace : built.enclosingNamespace =
        ((accepted.filterMap BuildStep.namespace?).getLast?.map id).or start.enclosingNamespace := by
      refine Attempts.view_run_eq_or ?_ start
      intro step _ current next hnext
      rw [(BuildStep.fields_of_apply hnext).2.1, Option.map_id_apply]
    rwa [Option.map_id_apply] at hnamespace
  · refine Attempts.view_run_eq_or ?_ start
    intro step _ current next hnext
    exact (BuildStep.fields_of_apply hnext).2.2.1
  · refine Attempts.view_run_eq_or ?_ start
    intro step _ current next hnext
    exact (BuildStep.fields_of_apply hnext).2.2.2

/-- The result does not depend on how the steps of the two kinds interleave. -/
theorem run_eq_of_interleaving
    (h : start.IsValid) {steps others : List BuildStep}
    (hnamespaces : others.filterMap BuildStep.namespace? = steps.filterMap BuildStep.namespace?)
    (hgenerators : others.filterMap BuildStep.generator? = steps.filterMap BuildStep.generator?) :
    Attempts.run BuildStep.apply start others = Attempts.run BuildStep.apply start steps := by
  obtain ⟨hcustomization, hnamespace, hname, hversion⟩ := fields_of_run start steps
  obtain ⟨hcustomization', hnamespace', hname', hversion'⟩ := fields_of_run start others
  -- A step is accepted for its own texts, so the other kind has no say in what is accepted.
  rw [h.accepted] at hnamespace hname hversion hnamespace' hname' hversion'
  rw [filterMap_namespace?_filter_fits] at hnamespace hnamespace'
  rw [filterMap_generator?_filter_fits] at hname hversion hname' hversion'
  apply Configuration.ext
  · rw [hcustomization, hcustomization']
  · rw [hnamespace, hnamespace', hnamespaces]
  · rw [hname, hname', hgenerators]
  · rw [hversion, hversion', hgenerators]

/-- However a configuration is built, it is valid, a further step is refused just for its own texts,
and every setting is as the last accepted step that names it has set it.  So the two kinds of steps
commute. -/
theorem run_sets_last_accepted
    (h : start.IsStart) (steps : List BuildStep) :
    let built := Attempts.run BuildStep.apply start steps
    let accepted := Attempts.accepted BuildStep.apply start steps
    let generator? := (accepted.filterMap BuildStep.generator?).getLast?
    built.validated = .ok built ∧
    (∀ text error, (BuildStep.enclosingNamespace text).apply built = .error error ↔
      CSharp.isQualifiedName text = false ∧ error = .invalidNamespace text) ∧
    (∀ name version error, (BuildStep.generator name version).apply built = .error error ↔
      (Unicode.isBlank name = true ∧ error = .blank .generatorName) ∨
      (Unicode.isBlank name = false ∧ Unicode.isBlank version = true ∧
        error = .blank .generatorVersion)) ∧
    built.customization = start.customization ∧
    built.enclosingNamespace =
      (accepted.filterMap BuildStep.namespace?).getLast?.or start.enclosingNamespace ∧
    built.generatorName = (generator?.map Prod.fst).or start.generatorName ∧
    built.generatorVersion = (generator?.map Prod.snd).or start.generatorVersion ∧
    ∀ others : List BuildStep,
      others.filterMap BuildStep.namespace? = steps.filterMap BuildStep.namespace? →
      others.filterMap BuildStep.generator? = steps.filterMap BuildStep.generator? →
      Attempts.run BuildStep.apply start others = built := by
  intro built accepted generator?
  have hvalid : built.IsValid := h.isValid.run steps
  obtain ⟨hcustomization, hnamespace, hname, hversion⟩ := fields_of_run start steps
  refine ⟨validated_eq_ok_iff.mpr ⟨hvalid, rfl⟩, ?_, ?_, hcustomization, hnamespace, hname,
    hversion, ?_⟩
  · intro text error
    exact hvalid.withNamespace_eq_error_iff
  · intro name version error
    exact hvalid.withGenerator_eq_error_iff
  · intro others hnamespaces hgenerators
    exact run_eq_of_interleaving h.isValid hnamespaces hgenerators

/-- Two of the steps are refused, and neither they nor the order of the kinds matter. -/
theorem run_sets_last_accepted_over_refused :
    Attempts.run BuildStep.apply (ofCustomization .schemaFilter)
      [.enclosingNamespace "Shop", .generator "Vogen" " ", .generator "Vogen" "1.0",
        .enclosingNamespace "Shop Api"] =
      ⟨some .schemaFilter, some "Shop", some "Vogen", some "1.0"⟩ ∧
    Attempts.run BuildStep.apply (ofCustomization .schemaFilter)
      [.generator "Vogen" " ", .enclosingNamespace "Shop", .enclosingNamespace "Shop Api",
        .generator "Vogen" "1.0"] =
      ⟨some .schemaFilter, some "Shop", some "Vogen", some "1.0"⟩ := by
  have hbuilt : Attempts.run BuildStep.apply (ofCustomization .schemaFilter)
      [.enclosingNamespace "Shop", .generator "Vogen" " ", .generator "Vogen" "1.0",
        .enclosingNamespace "Shop Api"] =
      ⟨some .schemaFilter, some "Shop", some "Vogen", some "1.0"⟩ := by
    decide +kernel
  obtain ⟨-, -, -, -, -, -, -, hinterleaving⟩ :=
    run_sets_last_accepted (.ofCustomization .schemaFilter)
      [.enclosingNamespace "Shop", .generator "Vogen" " ", .generator "Vogen" "1.0",
        .enclosingNamespace "Shop Api"]
  have hothers := hinterleaving [.generator "Vogen" " ", .enclosingNamespace "Shop",
    .enclosingNamespace "Shop Api", .generator "Vogen" "1.0"] rfl rfl
  exact ⟨hbuilt, hothers.trans hbuilt⟩

end ValueSchema.Configuration

import ValueSchema.Proofs.Filter.Representation
import ValueSchema.Proofs.OrderedMap
import ValueSchema.Proofs.Registry

/-!
# Runs of a filter

A filter may be applied to one schema for several types in turn.  A copy leaves nothing of the
copies before it, so what counts is the last of the types that is registered: the run ends as if the
filter had been applied for that type alone.  This holds exactly of typed schemas, and of JSON
objects up to the order of their members.
-/

namespace ValueSchema

/-! ## Runs -/

namespace SchemaFilter

variable {σ : Type} [PropertySurface σ]

/-- What an application returns, and the schema after it; a failure leaves the schema as it was. -/
def step (f : SchemaFilter σ) (schema : σ) (typeName : String) : Except FilterError Bool × σ :=
  match (f.apply typeName schema).value with
  | .ok (replaced, next) => (.ok replaced, next)
  | .error error => (.error error, schema)

/-- What the applications for some types return in turn, and the schema after the last of them. -/
def run (f : SchemaFilter σ) (schema : σ) : List String → List (Except FilterError Bool) × σ
  | [] => ([], schema)
  | typeName :: rest =>
    let (result, next) := f.step schema typeName
    let (results, final) := run f next rest
    (result :: results, final)

/-- The run reports the registered types, and the last of them decides how it ends: up to `same`,
the final schema is what one copy makes of the schema at the start. -/
structure LastWins (f : SchemaFilter σ) (same : σ → σ → Prop) (schema : σ)
    (typeNames : List String) : Prop where
  results_eq : (f.run schema typeNames).1 =
    typeNames.map fun typeName => .ok (f.registry.contains typeName)
  final_eq : (∀ typeName ∈ typeNames, f.registry.contains typeName = false) →
    (f.run schema typeNames).2 = schema
  final_same : ∀ (before after : List String) (typeName underlyingName : String),
    typeNames = before ++ typeName :: after →
    f.registry.underlying? typeName = some underlyingName →
    (∀ later ∈ after, f.registry.contains later = false) →
    ∃ written copied, copyProperties (f.generate underlyingName) schema = .ok (written, copied) ∧
      same (f.run schema typeNames).2 copied

variable {f : SchemaFilter σ} {typeName underlyingName : String} {typeNames : List String}

theorem step_of_eq_none (h : f.registry.underlying? typeName = none) (schema : σ) :
    f.step schema typeName = (.ok false, schema) := by
  rw [step, value_apply_of_eq_none h]

theorem run_cons (f : SchemaFilter σ) (schema : σ) (typeName : String) (rest : List String) :
    f.run schema (typeName :: rest) =
      ((f.step schema typeName).1 :: (f.run (f.step schema typeName).2 rest).1,
        (f.run (f.step schema typeName).2 rest).2) :=
  rfl

theorem snd_run_append (f : SchemaFilter σ) (schema : σ) (first second : List String) :
    (f.run schema (first ++ second)).2 = (f.run (f.run schema first).2 second).2 := by
  induction first generalizing schema with
  | nil => rfl
  | cons typeName rest ih =>
      rw [List.cons_append, run_cons, run_cons]
      exact ih _

theorem snd_run_of_unregistered
    (h : ∀ typeName ∈ typeNames, f.registry.contains typeName = false) (schema : σ) :
    (f.run schema typeNames).2 = schema := by
  induction typeNames with
  | nil => rfl
  | cons typeName rest ih =>
      have hname : f.registry.contains typeName = false := h typeName (by simp)
      have hstep := step_of_eq_none (Registry.contains_eq_false_iff.mp hname) schema
      rw [run_cons, hstep]
      exact ih fun other hother => h other (List.mem_cons_of_mem typeName hother)

end SchemaFilter

/-! ## Copies that overwrite -/

/-- Copies always succeed, and a copy leaves nothing of an earlier one, up to `same`. -/
structure Overwrites {σ : Type} [PropertySurface σ] (copy : σ → σ → σ) (same : σ → σ → Prop) :
    Prop where
  copyProperties_eq : ∀ source destination,
    ∃ written, copyProperties source destination = .ok (written, copy source destination)
  equivalence : Equivalence same
  copy_copy : ∀ source earlier destination,
    same (copy source (copy earlier destination)) (copy source destination)

namespace Overwrites

open SchemaFilter

variable {σ : Type} [PropertySurface σ] {copy : σ → σ → σ} {same : σ → σ → Prop}
variable {f : SchemaFilter σ} {typeName underlyingName : String}

theorem step_of_eq_some
    (hcopy : Overwrites copy same) (h : f.registry.underlying? typeName = some underlyingName)
    (schema : σ) :
    f.step schema typeName = (.ok true, copy (f.generate underlyingName) schema) := by
  obtain ⟨written, hwritten⟩ := hcopy.copyProperties_eq (f.generate underlyingName) schema
  rw [step, value_apply_of_eq_some h, hwritten]
  rfl

theorem fst_step (hcopy : Overwrites copy same) (schema : σ) (typeName : String) :
    (f.step schema typeName).1 = .ok (f.registry.contains typeName) := by
  cases h : f.registry.underlying? typeName with
  | none => rw [step_of_eq_none h, Registry.contains_eq_false_iff.mpr h]
  | some underlyingName =>
      have hcontains : f.registry.contains typeName = true := Option.isSome_iff_exists.mpr ⟨_, h⟩
      rw [hcopy.step_of_eq_some h, hcontains]

theorem keep_step
    (hcopy : Overwrites copy same) {β : Type} (keep : σ → β)
    (hkeep : ∀ source destination, keep (copy source destination) = keep destination)
    (schema : σ) (typeName : String) :
    keep (f.step schema typeName).2 = keep schema := by
  cases h : f.registry.underlying? typeName with
  | none => rw [step_of_eq_none h]
  | some underlyingName => rw [hcopy.step_of_eq_some h, hkeep]

theorem copy_step (hcopy : Overwrites copy same) (source schema : σ) (typeName : String) :
    same (copy source (f.step schema typeName).2) (copy source schema) := by
  cases h : f.registry.underlying? typeName with
  | none =>
      rw [step_of_eq_none h]
      exact hcopy.equivalence.refl _
  | some underlyingName =>
      rw [hcopy.step_of_eq_some h]
      exact hcopy.copy_copy source _ schema

theorem fst_run (hcopy : Overwrites copy same) (schema : σ) (typeNames : List String) :
    (f.run schema typeNames).1 =
      typeNames.map fun typeName => .ok (f.registry.contains typeName) := by
  induction typeNames generalizing schema with
  | nil => rfl
  | cons typeName rest ih => rw [run_cons, hcopy.fst_step, ih, List.map_cons]

/-- What every copy keeps of its destination is kept by a run. -/
theorem keep_run
    (hcopy : Overwrites copy same) {β : Type} (keep : σ → β)
    (hkeep : ∀ source destination, keep (copy source destination) = keep destination)
    (schema : σ) (typeNames : List String) :
    keep (f.run schema typeNames).2 = keep schema := by
  induction typeNames generalizing schema with
  | nil => rfl
  | cons typeName rest ih =>
      rw [run_cons]
      exact (ih _).trans (hcopy.keep_step keep hkeep schema typeName)

/-- A copy leaves nothing of a run before it. -/
theorem copy_run
    (hcopy : Overwrites copy same) (source schema : σ) (typeNames : List String) :
    same (copy source (f.run schema typeNames).2) (copy source schema) := by
  induction typeNames generalizing schema with
  | nil => exact hcopy.equivalence.refl _
  | cons typeName rest ih =>
      rw [run_cons]
      exact hcopy.equivalence.trans (ih _) (hcopy.copy_step source schema typeName)

/-- Where copies overwrite, the last registered type wins. -/
theorem lastWins
    (hcopy : Overwrites copy same) (f : SchemaFilter σ) (schema : σ) (typeNames : List String) :
    f.LastWins same schema typeNames where
  results_eq := hcopy.fst_run schema typeNames
  final_eq h := snd_run_of_unregistered h schema
  final_same before after typeName underlyingName htypeNames hunderlying hafter := by
    obtain ⟨written, hwritten⟩ := hcopy.copyProperties_eq (f.generate underlyingName) schema
    have hfinal : (f.run schema typeNames).2 =
        copy (f.generate underlyingName) (f.run schema before).2 := by
      rw [htypeNames, snd_run_append, run_cons, hcopy.step_of_eq_some hunderlying]
      exact snd_run_of_unregistered hafter _
    refine ⟨written, _, hwritten, ?_⟩
    rw [hfinal]
    exact hcopy.copy_run _ schema before

end Overwrites

/-! ## The two representations -/

def JsonObject.SameMembers (left right : JsonObject) : Prop := left.entries.Perm right.entries

theorem JsonObject.equivalence_sameMembers : Equivalence JsonObject.SameMembers :=
  ⟨fun _ => List.Perm.refl _, List.Perm.symm, List.Perm.trans⟩

/-- A copy over a typed schema keeps nothing of it but the reference. -/
theorem Schema.overwrites :
    Overwrites (fun s t : Schema => { s.normal with reference := t.reference }) Eq where
  copyProperties_eq s t := ⟨10, Schema.copyProperties_eq_ok s t⟩
  equivalence := eq_equivalence
  copy_copy _ _ _ := rfl

/-- A copy over an object replaces all its keywords. -/
theorem JsonObject.overwrites :
    Overwrites (fun source destination => source.storeAll destination schemaKeywords)
      JsonObject.SameMembers where
  copyProperties_eq source destination := ⟨_, copyProperties_eq_ok source destination⟩
  equivalence := equivalence_sameMembers
  copy_copy source earlier destination := by
    refine OrderedMap.perm_entries_iff.mpr fun key => ?_
    rw [get?_storeAll, get?_storeAll, get?_storeAll]
    by_cases hkey : key ∈ schemaKeywords
    · rw [if_pos hkey, if_pos hkey]
    · rw [if_neg hkey, if_neg hkey, if_neg hkey]

namespace SchemaFilter

/-- Over any run of a filter no application fails and the last registered type wins.  The reference
of a typed schema stays, and so does every key of an object that is no keyword. -/
theorem run_ends_with_last_registered (typeNames : List String) :
    (∀ (f : SchemaFilter Schema) (s : Schema),
      f.LastWins Eq s typeNames ∧ (f.run s typeNames).2.reference = s.reference) ∧
    ∀ (f : SchemaFilter JsonObject) (object : JsonObject),
      f.LastWins JsonObject.SameMembers object typeNames ∧
        ∀ key ∉ schemaKeywords, (f.run object typeNames).2.get? key = object.get? key := by
  constructor
  · intro f s
    have hreference : (f.run s typeNames).2.reference = s.reference :=
      Schema.overwrites.keep_run Schema.reference (fun _ _ => rfl) s typeNames
    exact ⟨Schema.overwrites.lastWins f s typeNames, hreference⟩
  · intro f object
    refine ⟨JsonObject.overwrites.lastWins f object typeNames, fun key hkey => ?_⟩
    have hkeep : ∀ source destination : JsonObject,
        (source.storeAll destination schemaKeywords).get? key = destination.get? key := by
      intro source destination
      rw [JsonObject.get?_storeAll, if_neg hkey]
    exact JsonObject.overwrites.keep_run (fun kept => kept.get? key) hkeep object typeNames

/-- Two registered types and one that is not: the run ends as one copy for the second of them, and
the key that is no keyword stays. -/
theorem run_ends_with_last_registered_over_vendor_key :
    let registry : Registry :=
      ⟨⟨[("App.Age", "System.Int32"), ("App.Name", "System.String")], by decide⟩⟩
    let age : JsonObject :=
      (OrderedMap.empty.insert "type" (.string "integer")).insert "title" (.string "Age")
    let name : JsonObject :=
      (OrderedMap.empty.insert "x-generated" (.boolean true)).insert "type" (.string "string")
    let f : SchemaFilter JsonObject :=
      ⟨registry, fun underlyingName => if underlyingName = "System.Int32" then age else name⟩
    let object : JsonObject :=
      (OrderedMap.empty.insert "$ref" (.string "#/Name")).insert "x-note" .null
    let typeNames := ["App.Age", "App.Name", "App.Other"]
    (f.run object typeNames).1 = [.ok true, .ok true, .ok false] ∧
      (∃ written copied, copyProperties name object = .ok (written, copied) ∧
        JsonObject.SameMembers (f.run object typeNames).2 copied) ∧
      (f.run object typeNames).2.get? "x-note" = some .null := by
  intro registry age name f object typeNames
  obtain ⟨hwins, hkeys⟩ := (run_ends_with_last_registered typeNames).2 f object
  refine ⟨hwins.results_eq, ?_, hkeys "x-note" (by decide)⟩
  exact hwins.final_same ["App.Age"] ["App.Other"] "App.Name" "System.String" rfl rfl (by decide)

end SchemaFilter

end ValueSchema

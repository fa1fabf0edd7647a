import ValueSchema.Proofs.OrderedMap
import ValueSchema.Proofs.Property.ObjectCopy
import ValueSchema.Proofs.Schema.Canonical
import ValueSchema.Proofs.Schema.Copy

/-!
# What a copy leaves

A copy between schemas of one kind never fails, and it settles every property of the destination.  A
typed schema becomes its source but for the reference, which stays, and for samples `null`, which do
not survive.  An object has the keywords of its source, less those that are `null`, beside the keys
of its own that are no keywords.  To copy from the same source again changes nothing, not even the
order of the members.
-/

namespace ValueSchema

open PropertySurface

/-! ## Typed schemas -/

/-- Between typed schemas a copy takes everything from the source but the reference and the samples
`null`, whose loss is told depth by depth of the items. -/
theorem Schema.copy_takes_all_but_reference (source destination : Schema) :
    ∃ copied, copyProperties source destination = .ok (10, copied) ∧
      copied.reference = destination.reference ∧
      (∀ depth, level? depth { copied with reference := source.reference } =
        (level? depth source).map dropNullSample) ∧
      copyProperties source copied = .ok (10, copied) := by
  refine ⟨_, copyProperties_eq_ok source destination, rfl, fun depth => ?_,
    copyProperties_eq_ok source _⟩
  have hnormal : { source.normal with reference := source.reference } = source.normal := by
    rw [normal_eq]
  exact (congrArg (level? depth) hnormal).trans (level?_normal depth source)

/-! ## Objects -/

namespace JsonObject

variable {source object : JsonObject} {name : String} {value : Json}

theorem store_of_get?_eq
    (h : object.get? name = if value.isNull then none else some value) :
    object.store name value = object := by
  unfold store
  cases hnull : value.isNull with
  | true =>
      rw [hnull] at h
      exact OrderedMap.erase_of_get?_eq_none h
  | false =>
      rw [hnull] at h
      exact OrderedMap.insert_of_get?_eq_some h

theorem store_of_get?_eq_present?
    (h : object.get? name = source.present? name) :
    object.store name ((source.get? name).getD .null) = object :=
  store_of_get?_eq (h.trans (present?_eq source name))

/-- An object that agrees with the source under the names already stays as it is. -/
theorem storeAll_of_get?_eq_present?
    {names : List String} (h : ∀ name ∈ names, object.get? name = source.present? name) :
    source.storeAll object names = object := by
  induction names with
  | nil => rfl
  | cons name rest ih =>
      change source.storeAll (object.store name _) rest = object
      rw [store_of_get?_eq_present? (h name (by simp))]
      exact ih fun other hother => h other (List.mem_cons_of_mem name hother)

theorem present?_eq_some_iff : object.present? name = some value ↔
    object.get? name = some value ∧ value ≠ .null := by
  have hnull : (!value.isNull) = true ↔ value ≠ .null := by
    cases value <;> simp [Json.isNull]
  rw [present?, Option.filter_eq_some_iff, hnull]

/-- Between objects a copy settles the keywords and leaves all other keys alone. -/
theorem copy_replaces_keywords (source destination : JsonObject) :
    ∃ copied : JsonObject,
      copyProperties source destination = .ok (schemaKeywords.length, copied) ∧
      (copied.entries.map Prod.fst).Nodup ∧
      (∀ key ∈ schemaKeywords, ∀ value,
        copied.get? key = some value ↔ source.get? key = some value ∧ value ≠ .null) ∧
      (∀ key ∉ schemaKeywords, copied.get? key = destination.get? key) ∧
      copyProperties source copied = .ok (schemaKeywords.length, copied) := by
  let copied := source.storeAll destination schemaKeywords
  have hkeywords : ∀ key ∈ schemaKeywords, copied.get? key = source.present? key := by
    intro key hkey
    rw [get?_storeAll, if_pos hkey]
  refine ⟨copied, copyProperties_eq_ok source destination, copied.nodup_keys, ?_, ?_, ?_⟩
  · intro key hkey value
    rw [hkeywords key hkey, present?_eq_some_iff]
  · intro key hkey
    rw [get?_storeAll, if_neg hkey]
  · rw [copyProperties_eq_ok, storeAll_of_get?_eq_present? hkeywords]

/-- The source holds a keyword as `null`, a reference and a key in another case; the destination
keeps its own reference and loses the keywords that the source does not have. -/
theorem copy_replaces_keywords_of_null :
    let source : JsonObject :=
      ⟨[("format", .null), ("Type", .boolean true), ("$ref", .string "#/Other"),
        ("title", .string "Age")], by decide⟩
    let destination : JsonObject :=
      ⟨[("type", .string "object"), ("$ref", .string "#/Age"), ("format", .string "int32"),
        ("x-note", .null)], by decide⟩
    ∃ copied : JsonObject, copyProperties source destination = .ok (32, copied) ∧
      copied.get? "format" = none ∧ copied.get? "type" = none ∧
      copied.get? "title" = some (.string "Age") ∧ copied.get? "Type" = none ∧
      copied.get? "$ref" = some (.string "#/Age") ∧ copied.get? "x-note" = some .null ∧
      copyProperties source copied = .ok (32, copied) := by
  intro source destination
  obtain ⟨copied, hcopied, -, hkeywords, hothers, hagain⟩ :=
    copy_replaces_keywords source destination
  have habsent : ∀ key ∈ schemaKeywords, source.present? key = none → copied.get? key = none := by
    intro key hkey hnone
    refine Option.eq_none_iff_forall_ne_some.mpr fun value hvalue => ?_
    have hpresent := present?_eq_some_iff.mpr ((hkeywords key hkey value).mp hvalue)
    rw [hnone] at hpresent
    cases hpresent
  refine ⟨copied, hcopied, habsent "format" (by decide) rfl, habsent "type" (by decide) rfl, ?_,
    hothers "Type" (by decide), hothers "$ref" (by decide), hothers "x-note" (by decide), hagain⟩
  exact (hkeywords "title" (by decide) _).mpr ⟨rfl, nofun⟩

end JsonObject

end ValueSchema

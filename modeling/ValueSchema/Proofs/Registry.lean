import Mathlib.Data.List.Dedup
import ValueSchema.Registry

/-!
# Registries of work items

A registry that takes a list of work items knows the primitive of each, knows no other value object
that it did not know before, and is as large as the number of their names.
-/

namespace ValueSchema.Registry

variable {r next : Registry} {items : List WorkItem}

def names (r : Registry) : List String := r.entries.entries.map Prod.fst

theorem nodup_names (r : Registry) : r.names.Nodup := r.entries.nodup_keys

theorem mem_names_iff {typeName : String} :
    typeName ∈ r.names ↔ r.underlying? typeName ≠ none := by
  rw [underlying?, OrderedMap.get?, ne_eq, OrderedMap.lookup_eq_none_iff, not_not, names]

theorem contains_eq_false_iff {typeName : String} :
    r.contains typeName = false ↔ r.underlying? typeName = none :=
  Option.isSome_eq_false_iff.trans Option.isNone_iff_eq_none

theorem eq_of_register
    {typeName underlyingName existing : String}
    (h : r.register typeName underlyingName = .ok next)
    (hexisting : r.underlying? typeName = some existing) :
    underlyingName = existing := by
  unfold register at h
  rw [hexisting] at h
  by_cases heq : existing = underlyingName
  · exact heq.symm
  · simp only [heq, if_false] at h
    cases h

theorem underlying?_of_register
    {typeName underlyingName other existing : String}
    (h : r.register typeName underlyingName = .ok next)
    (hexisting : r.underlying? other = some existing) :
    next.underlying? other = some existing := by
  rw [underlying?_register h]
  by_cases hother : other = typeName
  · subst hother
    rw [if_pos rfl, eq_of_register h hexisting]
  · rwa [if_neg hother]

theorem registerAll_cons
    {item : WorkItem} {rest : List WorkItem} (h : r.registerAll (item :: rest) = .ok next) :
    ∃ middle, r.register item.typeName item.underlyingName = .ok middle ∧
      middle.registerAll rest = .ok next := by
  rw [registerAll] at h
  cases hmiddle : r.register item.typeName item.underlyingName with
  | error error =>
      rw [hmiddle] at h
      cases h
  | ok middle =>
      rw [hmiddle] at h
      exact ⟨middle, rfl, h⟩

/-- What is registered stays registered. -/
theorem underlying?_of_registerAll
    (h : r.registerAll items = .ok next) {typeName existing : String}
    (hexisting : r.underlying? typeName = some existing) :
    next.underlying? typeName = some existing := by
  induction items generalizing r with
  | nil =>
      rw [← Except.ok.inj h]
      exact hexisting
  | cons item rest ih =>
      obtain ⟨middle, hmiddle, hrest⟩ := registerAll_cons h
      exact ih hrest (underlying?_of_register hmiddle hexisting)

/-- Each work item is registered with its primitive. -/
theorem underlying?_of_mem
    (h : r.registerAll items = .ok next) {item : WorkItem} (hitem : item ∈ items) :
    next.underlying? item.typeName = some item.underlyingName := by
  induction items generalizing r with
  | nil => cases hitem
  | cons first rest ih =>
      obtain ⟨middle, hmiddle, hrest⟩ := registerAll_cons h
      rcases List.mem_cons.mp hitem with rfl | hmem
      · refine underlying?_of_registerAll hrest ?_
        rw [underlying?_register hmiddle, if_pos rfl]
      · exact ih hrest hmem

theorem underlying?_of_not_mem
    (h : r.registerAll items = .ok next) {typeName : String}
    (hname : typeName ∉ items.map WorkItem.typeName) :
    next.underlying? typeName = r.underlying? typeName := by
  induction items generalizing r with
  | nil => rw [← Except.ok.inj h]
  | cons item rest ih =>
      rw [List.map_cons, List.mem_cons, not_or] at hname
      obtain ⟨middle, hmiddle, hrest⟩ := registerAll_cons h
      rw [ih hrest hname.2, underlying?_register hmiddle, if_neg hname.1]

theorem mem_names_ofItems_iff
    (h : ofItems items = .ok r) {typeName : String} :
    typeName ∈ r.names ↔ typeName ∈ items.map WorkItem.typeName := by
  rw [mem_names_iff]
  constructor
  · intro hregistered
    by_contra hname
    exact hregistered (underlying?_of_not_mem h hname)
  · intro hname
    obtain ⟨item, hitem, rfl⟩ := List.mem_map.mp hname
    rw [underlying?_of_mem h hitem]
    exact Option.some_ne_none _

theorem size_eq_of_mem_names_iff
    {typeNames : List String} (h : ∀ {typeName}, typeName ∈ r.names ↔ typeName ∈ typeNames) :
    r.size = typeNames.dedup.length := by
  have hperm : r.names.Perm typeNames.dedup :=
    (List.perm_ext_iff_of_nodup r.nodup_names (List.nodup_dedup _)).mpr fun typeName => by
      rw [h, List.mem_dedup]
  rw [← hperm.length_eq, names, List.length_map]
  rfl

theorem size_ofItems
    (h : ofItems items = .ok r) :
    r.size = (items.map WorkItem.typeName).dedup.length :=
  size_eq_of_mem_names_iff (mem_names_ofItems_iff h)

end ValueSchema.Registry

import ValueSchema.Proofs.OrderedMap
import ValueSchema.Proofs.Registry

/-!
# The order of work items

A registry made from work items records, under each name, the primitive of the first item of that
name.  An item with another primitive clashes with the first one of its name, and the first item
that clashes is the one that is refused.  Whether any item clashes depends on neither the order nor
the repetition of the items, and if none does the registry does not depend on them either.
-/

namespace ValueSchema.Registry

variable {r next left right : Registry} {items others processed : List WorkItem}
variable {item : WorkItem} {typeName : String}

/-! ## Equality of registries -/

theorem same_iff :
    left.same right = true ↔
      ∀ typeName, left.underlying? typeName = right.underlying? typeName := by
  have hperm : left.entries.entries.Perm right.entries.entries ↔
      ∀ typeName, left.underlying? typeName = right.underlying? typeName :=
    OrderedMap.perm_entries_iff
  have hfound : (left.entries.entries.all fun entry =>
      right.underlying? entry.1 == some entry.2) = true ↔
      left.entries.entries ⊆ right.entries.entries := by
    rw [List.all_eq_true]
    constructor
    · intro hall entry hentry
      exact OrderedMap.mem_entries_iff.mpr (eq_of_beq (hall entry hentry))
    · intro hsubset entry hentry
      exact beq_iff_eq.mpr (OrderedMap.mem_entries_iff.mp (hsubset hentry))
  rw [same, Bool.and_eq_true, beq_iff_eq, hfound]
  constructor
  · rintro ⟨hsize, hsubset⟩
    exact hperm.mp (OrderedMap.perm_entries_of_size_eq hsize hsubset)
  · intro hget
    have hentries := hperm.mpr hget
    exact ⟨hentries.length_eq, hentries.subset⟩

/-! ## The first item of a name -/

/-- The primitive of the first item of a name. -/
def firstUnderlying? (items : List WorkItem) (typeName : String) : Option String :=
  (items.find? fun item => item.typeName == typeName).map WorkItem.underlyingName

/-- The item gives its name another primitive than the first item of that name. -/
def clashes (items : List WorkItem) (item : WorkItem) : Bool :=
  firstUnderlying? items item.typeName != some item.underlyingName

/-- No two of the items give one name different primitives. -/
def Consistent (items : List WorkItem) : Prop :=
  ∀ left ∈ items, ∀ right ∈ items,
    left.typeName = right.typeName → left.underlyingName = right.underlyingName

theorem firstUnderlying?_append (first second : List WorkItem) (typeName : String) :
    firstUnderlying? (first ++ second) typeName =
      (firstUnderlying? first typeName).or (firstUnderlying? second typeName) := by
  rw [firstUnderlying?, List.find?_append, Option.map_or]
  rfl

theorem firstUnderlying?_cons_self (item : WorkItem) (rest : List WorkItem) :
    firstUnderlying? (item :: rest) item.typeName = some item.underlyingName := by
  simp [firstUnderlying?]

theorem firstUnderlying?_singleton (item : WorkItem) (typeName : String) :
    firstUnderlying? [item] typeName =
      if typeName = item.typeName then some item.underlyingName else none := by
  by_cases h : typeName = item.typeName
  · rw [if_pos h, h, firstUnderlying?_cons_self]
  · simp [firstUnderlying?, h, Ne.symm h]

theorem exists_of_firstUnderlying?_eq_some
    {underlyingName : String} (h : firstUnderlying? items typeName = some underlyingName) :
    ∃ first ∈ items, first.typeName = typeName ∧ first.underlyingName = underlyingName := by
  obtain ⟨first, hfirst, hunderlying⟩ := Option.map_eq_some_iff.mp h
  have hname : first.typeName = typeName := by simpa using List.find?_some hfirst
  exact ⟨first, List.mem_of_find?_eq_some hfirst, hname, hunderlying⟩

theorem isSome_firstUnderlying? (h : item ∈ items) :
    (firstUnderlying? items item.typeName).isSome = true := by
  rw [firstUnderlying?, Option.isSome_map, List.find?_isSome]
  exact ⟨item, h, beq_self_eq_true _⟩

theorem find?_clashes_eq_none_iff : items.find? (clashes items) = none ↔ Consistent items := by
  rw [List.find?_eq_none]
  constructor
  · intro hnone left hleft right hright hname
    have hfirst {item : WorkItem} (hitem : item ∈ items) :
        firstUnderlying? items item.typeName = some item.underlyingName := by
      simpa [clashes] using hnone item hitem
    have hboth := hfirst hleft
    rw [hname, hfirst hright] at hboth
    exact (Option.some.inj hboth).symm
  · intro hconsistent item hitem
    obtain ⟨existing, hexisting⟩ := Option.isSome_iff_exists.mp (isSome_firstUnderlying? hitem)
    obtain ⟨first, hfirst, hname, rfl⟩ := exists_of_firstUnderlying?_eq_some hexisting
    simp [clashes, hexisting, hconsistent first hfirst item hitem hname]

theorem firstUnderlying?_eq_some_iff
    (hconsistent : Consistent items) {underlyingName : String} :
    firstUnderlying? items typeName = some underlyingName ↔
      ⟨typeName, underlyingName⟩ ∈ items := by
  constructor
  · intro h
    obtain ⟨first, hfirst, rfl, rfl⟩ := exists_of_firstUnderlying?_eq_some h
    exact hfirst
  · intro hitem
    obtain ⟨existing, hexisting⟩ := Option.isSome_iff_exists.mp (isSome_firstUnderlying? hitem)
    obtain ⟨first, hfirst, hname, hunderlying⟩ := exists_of_firstUnderlying?_eq_some hexisting
    have hagree : first.underlyingName = underlyingName := hconsistent first hfirst _ hitem hname
    rw [← hagree, hunderlying]
    exact hexisting

/-- Consistency and the primitives of the names depend on the set of the items alone. -/
theorem consistent_congr (hset : ∀ item, item ∈ items ↔ item ∈ others) :
    Consistent items ↔ Consistent others := by
  simp only [Consistent, hset]

theorem firstUnderlying?_congr
    (hset : ∀ item, item ∈ items ↔ item ∈ others) (hconsistent : Consistent items)
    (typeName : String) :
    firstUnderlying? items typeName = firstUnderlying? others typeName := by
  apply Option.ext
  intro underlyingName
  rw [firstUnderlying?_eq_some_iff hconsistent,
    firstUnderlying?_eq_some_iff ((consistent_congr hset).mp hconsistent), hset]

/-! ## One registration after the other -/

/-- The registry records the first primitive of each name of the items, and nothing else. -/
def Records (r : Registry) (items : List WorkItem) : Prop :=
  ∀ typeName, r.underlying? typeName = firstUnderlying? items typeName

theorem records_empty : ({} : Registry).Records [] := fun _ => rfl

theorem register_eq_error_iff
    {underlyingName : String} {error : FilterError} :
    r.register typeName underlyingName = .error error ↔
      ∃ existing, r.underlying? typeName = some existing ∧ existing ≠ underlyingName ∧
        error = .conflictingRegistration typeName existing underlyingName := by
  unfold register
  cases r.underlying? typeName with
  | none => simp
  | some existing =>
      by_cases heq : existing = underlyingName
      · simp [heq]
      · simp only [heq, if_false, Except.error.injEq, Option.some.injEq]
        constructor
        · rintro rfl
          exact ⟨existing, rfl, heq, rfl⟩
        · rintro ⟨_, rfl, -, rfl⟩
          rfl

/-- A registration that succeeds leaves the item's name with what was recorded first under it. -/
theorem underlying?_or_of_register
    (h : r.register item.typeName item.underlyingName = .ok next) :
    (r.underlying? item.typeName).or (some item.underlyingName) = some item.underlyingName := by
  cases hexisting : r.underlying? item.typeName with
  | none => rfl
  | some existing => rw [Option.some_or, eq_of_register h hexisting]

theorem Records.register
    (hrecords : r.Records processed)
    (h : r.register item.typeName item.underlyingName = .ok next) :
    next.Records (processed ++ [item]) := by
  intro typeName
  rw [underlying?_register h, firstUnderlying?_append, firstUnderlying?_singleton,
    ← hrecords typeName]
  by_cases hname : typeName = item.typeName
  · subst hname
    rw [if_pos rfl, if_pos rfl, underlying?_or_of_register h]
  · rw [if_neg hname, if_neg hname, Option.or_none]

/-- The next item of a list either is registered, and does not clash with the list, or is refused,
and does. -/
theorem Records.register_cases
    (hrecords : r.Records processed) (item : WorkItem) (rest : List WorkItem) :
    (∃ next, r.register item.typeName item.underlyingName = .ok next ∧
      next.Records (processed ++ [item]) ∧ clashes (processed ++ item :: rest) item = false) ∨
    ∃ existing, firstUnderlying? (processed ++ item :: rest) item.typeName = some existing ∧
      clashes (processed ++ item :: rest) item = true ∧
      r.register item.typeName item.underlyingName =
        .error (.conflictingRegistration item.typeName existing item.underlyingName) := by
  have hfirst : firstUnderlying? (processed ++ item :: rest) item.typeName =
      (r.underlying? item.typeName).or (some item.underlyingName) := by
    rw [firstUnderlying?_append, firstUnderlying?_cons_self, hrecords]
  cases hregister : r.register item.typeName item.underlyingName with
  | ok next =>
      refine Or.inl ⟨next, rfl, hrecords.register hregister, ?_⟩
      rw [clashes, hfirst, underlying?_or_of_register hregister]
      exact bne_self_eq_false _
  | error error =>
      obtain ⟨existing, hexisting, hne, rfl⟩ := register_eq_error_iff.mp hregister
      rw [hexisting, Option.some_or] at hfirst
      refine Or.inr ⟨existing, hfirst, ?_, rfl⟩
      rw [clashes, hfirst]
      exact bne_iff_ne.mpr fun heq => hne (Option.some.inj heq)

/-- Registering the rest of a list, after a part that is recorded, either records the whole list or
stops at the first item that clashes with the list. -/
theorem Records.registerAll_cases
    (hrecords : r.Records processed) (rest : List WorkItem) :
    (∃ next, r.registerAll rest = .ok next ∧ next.Records (processed ++ rest) ∧
      rest.find? (clashes (processed ++ rest)) = none) ∨
    ∃ item existing, rest.find? (clashes (processed ++ rest)) = some item ∧
      firstUnderlying? (processed ++ rest) item.typeName = some existing ∧
      r.registerAll rest =
        .error (.conflictingRegistration item.typeName existing item.underlyingName) := by
  induction rest generalizing r processed with
  | nil =>
      refine Or.inl ⟨r, rfl, ?_, rfl⟩
      rwa [List.append_nil]
  | cons item rest ih =>
      obtain ⟨next, hregister, hnext, hagrees⟩ | ⟨existing, hexisting, hclashes, hregister⟩ :=
        hrecords.register_cases item rest
      · have ih := ih hnext
        rw [← List.append_cons] at ih
        rwa [registerAll, hregister, List.find?_cons_of_neg (by simp [hagrees])]
      · refine Or.inr ⟨item, existing, List.find?_cons_of_pos hclashes, hexisting, ?_⟩
        rw [registerAll, hregister]

/-! ## Lists of work items -/

/-- Consistent items make a registry, and it records them. -/
theorem exists_ofItems_eq_ok (hconsistent : Consistent items) :
    ∃ r, ofItems items = .ok r ∧ r.Records items := by
  obtain ⟨r, hr, hrecords, -⟩ | ⟨item, existing, hitem, -⟩ := records_empty.registerAll_cases items
  · exact ⟨r, hr, hrecords⟩
  · rw [List.nil_append, find?_clashes_eq_none_iff.mpr hconsistent] at hitem
    cases hitem

/-- Items that are not consistent are refused at the first item that clashes. -/
theorem exists_ofItems_eq_error (hinconsistent : ¬ Consistent items) :
    ∃ item existing, items.find? (clashes items) = some item ∧
      firstUnderlying? items item.typeName = some existing ∧
      ofItems items =
        .error (.conflictingRegistration item.typeName existing item.underlyingName) := by
  obtain ⟨r, -, -, hnone⟩ | hclash := records_empty.registerAll_cases items
  · exact absurd (find?_clashes_eq_none_iff.mp hnone) hinconsistent
  · exact hclash

theorem exists_ofItems_eq_ok_iff :
    (∃ r, ofItems items = .ok r) ↔ Consistent items := by
  constructor
  · rintro ⟨r, hr⟩
    by_contra hinconsistent
    obtain ⟨item, existing, -, -, herror⟩ := exists_ofItems_eq_error hinconsistent
    rw [hr] at herror
    cases herror
  · intro hconsistent
    obtain ⟨r, hr, -⟩ := exists_ofItems_eq_ok hconsistent
    exact ⟨r, hr⟩

theorem not_consistent_of_eq_error
    {error : FilterError} (h : ofItems items = .error error) :
    ¬ Consistent items := by
  intro hconsistent
  obtain ⟨r, hr⟩ := exists_ofItems_eq_ok_iff.mpr hconsistent
  rw [h] at hr
  cases hr

/-- Items of the same set make the same registry. -/
theorem exists_ofItems_same
    (hset : ∀ item, item ∈ items ↔ item ∈ others) (h : ofItems items = .ok r) :
    ∃ other, ofItems others = .ok other ∧ r.same other = true ∧
      ∀ typeName, r.underlying? typeName = other.underlying? typeName := by
  have hconsistent : Consistent items := exists_ofItems_eq_ok_iff.mp ⟨r, h⟩
  obtain ⟨found, hfound, hrecords⟩ := exists_ofItems_eq_ok hconsistent
  obtain ⟨other, hother, hothers⟩ := exists_ofItems_eq_ok ((consistent_congr hset).mp hconsistent)
  obtain rfl : found = r := by
    rw [h] at hfound
    exact (Except.ok.inj hfound).symm
  have hget : ∀ typeName, found.underlying? typeName = other.underlying? typeName := by
    intro typeName
    rw [hrecords, hothers, firstUnderlying?_congr hset hconsistent]
  exact ⟨other, hother, same_iff.mpr hget, hget⟩

/-- Whether work items make a registry, and which, depends on neither their order nor their
repetition.  What depends on the order is the item that is refused: it is the first one whose
primitive is not that of the first item of its name. -/
theorem ofItems_independent_of_order (items : List WorkItem) :
    ((∃ r, ofItems items = .ok r) ↔ Consistent items) ∧
      (∀ r, ofItems items = .ok r →
        ∀ others, (items.Perm others ∨ ∀ item, item ∈ items ↔ item ∈ others) →
          ∃ other, ofItems others = .ok other ∧ r.same other = true ∧
            ∀ typeName, r.underlying? typeName = other.underlying? typeName) ∧
      ∀ error, ofItems items = .error error →
        (∀ others, items.Perm others → ∃ refusal, ofItems others = .error refusal) ∧
          ∃ item existing, items.find? (clashes items) = some item ∧
            firstUnderlying? items item.typeName = some existing ∧
            error = .conflictingRegistration item.typeName existing item.underlyingName := by
  refine ⟨exists_ofItems_eq_ok_iff, ?_, ?_⟩
  · intro r hr others horder
    have hset : ∀ item, item ∈ items ↔ item ∈ others :=
      horder.elim (fun hperm _ => hperm.mem_iff) id
    exact exists_ofItems_same hset hr
  · intro error herror
    have hinconsistent := not_consistent_of_eq_error herror
    constructor
    · intro others hperm
      have hothers := mt (consistent_congr fun _ => hperm.mem_iff).mpr hinconsistent
      obtain ⟨item, existing, -, -, hrefused⟩ := exists_ofItems_eq_error hothers
      exact ⟨_, hrefused⟩
    · obtain ⟨item, existing, hitem, hexisting, hrefused⟩ := exists_ofItems_eq_error hinconsistent
      rw [herror] at hrefused
      exact ⟨item, existing, hitem, hexisting, Except.error.inj hrefused⟩

/-- Items that repeat make a registry in any order; of two names that clash, the one whose clash
comes first is reported. -/
theorem ofItems_independent_of_order_two_clashes :
    let age : WorkItem := ⟨"App.Age", "System.Int32"⟩
    let name : WorkItem := ⟨"App.Name", "System.String"⟩
    let clashing : List WorkItem :=
      [age, name, ⟨"App.Name", "System.Char"⟩, ⟨"App.Age", "System.Int64"⟩]
    (∃ r, ofItems [age, name] = .ok r) ∧
      (∃ other, ofItems [name, age, name] = .ok other) ∧
      ofItems clashing =
        .error (.conflictingRegistration "App.Name" "System.String" "System.Char") ∧
      ∃ refusal, ofItems clashing.reverse = .error refusal := by
  intro age name clashing
  have hr : ofItems [age, name] =
      .ok ⟨⟨[("App.Age", "System.Int32"), ("App.Name", "System.String")], by decide⟩⟩ := rfl
  have hclash : ofItems clashing =
      .error (.conflictingRegistration "App.Name" "System.String" "System.Char") := rfl
  have hset : ∀ item, item ∈ [age, name] ↔ item ∈ [name, age, name] := by
    intro item
    simp only [List.mem_cons, List.not_mem_nil, or_false]
    tauto
  obtain ⟨other, hother, -⟩ :=
    (ofItems_independent_of_order [age, name]).2.1 _ hr _ (Or.inr hset)
  exact ⟨⟨_, hr⟩, ⟨other, hother⟩, hclash,
    ((ofItems_independent_of_order clashing).2.2 _ hclash).1 _ clashing.reverse_perm.symm⟩

end ValueSchema.Registry

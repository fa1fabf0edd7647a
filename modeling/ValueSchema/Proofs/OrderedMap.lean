import Mathlib.Data.List.Nodup
import Mathlib.Data.List.Perm.Subperm
import ValueSchema.OrderedMap

/-!
# Maps up to the order of their entries

Two maps hold the same entries in some order when every key looks up the same value in both.  For
this it is enough that one map is as large as the other and holds each of its entries.  A look-up
among entries whose values are changed one by one finds the changed value.  A map that already holds
what is written to it stays as it is, order included.  Where a key is set or removed, the other
entries are kept, in order but for the last one, which takes the place of a removed one.
-/

namespace ValueSchema.OrderedMap

variable {α : Type} {left right : OrderedMap α}

theorem mem_entries_iff
    {map : OrderedMap α} {key : String} {value : α} :
    (key, value) ∈ map.entries ↔ map.get? key = some value :=
  ⟨lookup_eq_some_of_mem map.nodup_keys, mem_of_lookup_eq_some⟩

theorem nodup_entries (map : OrderedMap α) : map.entries.Nodup :=
  List.Nodup.of_map Prod.fst map.nodup_keys

/-- Two maps have the same entries in some order if and only if they agree in every look-up. -/
theorem perm_entries_iff :
    left.entries.Perm right.entries ↔ ∀ key, left.get? key = right.get? key := by
  constructor
  · intro hperm key
    exact lookup_perm hperm left.nodup_keys key
  · intro hget
    refine (List.perm_ext_iff_of_nodup left.nodup_entries right.nodup_entries).mpr ?_
    intro entry
    rw [mem_entries_iff, mem_entries_iff, hget]

theorem perm_entries_of_size_eq
    (hsize : left.size = right.size) (hentries : left.entries ⊆ right.entries) :
    left.entries.Perm right.entries :=
  (List.subperm_of_subset left.nodup_entries hentries).perm_of_length_le (Nat.le_of_eq hsize.symm)

theorem lookup_map {β : Type} (f : α → β) (key : String) (entries : List (String × α)) :
    lookup key (entries.map fun entry => (entry.1, f entry.2)) = (lookup key entries).map f := by
  induction entries with
  | nil => rfl
  | cons entry rest ih =>
      rw [List.map_cons, lookup, lookup]
      by_cases h : entry.1 = key
      · rw [if_pos h, if_pos h, Option.map_some]
      · rw [if_neg h, if_neg h, ih]

theorem keys_map {β : Type} (f : α → β) (entries : List (String × α)) :
    (entries.map fun entry => (entry.1, f entry.2)).map Prod.fst = entries.map Prod.fst := by
  rw [List.map_map]
  rfl

theorem put_of_lookup_eq_some
    {key : String} {value : α} {entries : List (String × α)} (h : lookup key entries = some value) :
    put key value entries = entries := by
  induction entries with
  | nil => cases h
  | cons entry rest ih =>
      rw [lookup] at h
      rw [put]
      by_cases hkey : entry.1 = key
      · rw [if_pos hkey] at h ⊢
        rw [← hkey, ← Option.some.inj h]
      · rw [if_neg hkey] at h ⊢
        rw [ih h]

theorem drop_of_lookup_eq_none
    {key : String} {entries : List (String × α)} (h : lookup key entries = none) :
    drop key entries = entries := by
  induction entries with
  | nil => rfl
  | cons entry rest ih =>
      rw [lookup] at h
      rw [drop]
      by_cases hkey : entry.1 = key
      · rw [if_pos hkey] at h
        cases h
      · rw [if_neg hkey] at h ⊢
        rw [ih h]

theorem insert_of_get?_eq_some
    {map : OrderedMap α} {key : String} {value : α} (h : map.get? key = some value) :
    map.insert key value = map :=
  OrderedMap.ext (put_of_lookup_eq_some h)

theorem erase_of_get?_eq_none
    {map : OrderedMap α} {key : String} (h : map.get? key = none) :
    map.erase key = map :=
  OrderedMap.ext (drop_of_lookup_eq_none h)

/-! ## Which entries move

A key that is set keeps every other entry in place.  A key that is removed pulls the last entry into
its place, so the order of a selection of other entries can change only behind it.
-/

section Placement

variable {map : OrderedMap α} {p : String → Bool} {key : String}
  {front back entries : List (String × α)}

/-- The entries after the first one with the key. -/
def behind (key : String) : List (String × α) → List (String × α)
  | [] => []
  | entry :: rest => if entry.1 = key then rest else behind key rest

theorem exists_eq_append_behind
    (h : behind key entries ≠ []) :
    ∃ front value, entries = front ++ (key, value) :: behind key entries := by
  induction entries with
  | nil => exact absurd rfl h
  | cons entry rest ih =>
      rw [behind] at h ⊢
      by_cases hkey : entry.1 = key
      · rw [if_pos hkey]
        exact ⟨[], entry.2, by rw [← hkey]; rfl⟩
      · rw [if_neg hkey] at h ⊢
        obtain ⟨front, value, hfront⟩ := ih h
        exact ⟨entry :: front, value, congrArg (entry :: ·) hfront⟩

theorem filter_put (hkey : p key = false) (value : α) (entries : List (String × α)) :
    (put key value entries).filter (fun entry => p entry.1) =
      entries.filter fun entry => p entry.1 := by
  induction entries with
  | nil => simp [put, hkey]
  | cons entry rest ih =>
      rw [put]
      by_cases h : entry.1 = key
      · simp [h, hkey]
      · rw [if_neg h, List.filter_cons, List.filter_cons, ih]

theorem filter_drop_perm (hkey : p key = false) (entries : List (String × α)) :
    ((drop key entries).filter fun entry => p entry.1).Perm
      (entries.filter fun entry => p entry.1) := by
  induction entries with
  | nil => exact List.Perm.refl _
  | cons entry rest ih =>
      rw [drop]
      by_cases h : entry.1 = key
      · have hentry : ¬p entry.1 = true := by simp [h, hkey]
        rw [if_pos h, List.filter_cons, if_neg hentry]
        exact (lastFirst_perm rest).filter _
      · rw [if_neg h, List.filter_cons, List.filter_cons]
        split
        · exact ih.cons entry
        · exact ih

/-- One entry alone has no order to lose. -/
theorem filter_drop_of_length_le_one
    (hkey : p key = false) (h : (entries.filter fun entry => p entry.1).length ≤ 1) :
    (drop key entries).filter (fun entry => p entry.1) = entries.filter fun entry => p entry.1 := by
  have hperm := filter_drop_perm hkey entries
  generalize entries.filter (fun entry => p entry.1) = selected at h hperm ⊢
  match selected, h with
  | [], _ => exact hperm.eq_nil
  | [entry], _ => exact hperm.eq_singleton

theorem put_append (key : String) (value : α) (front back : List (String × α)) :
    put key value (front ++ back) =
      if key ∈ front.map Prod.fst then put key value front ++ back
      else front ++ put key value back := by
  induction front with
  | nil => rfl
  | cons entry rest ih =>
      by_cases h : entry.1 = key
      · simp [put, h]
      · simp only [List.cons_append, put, if_neg h, ih, List.map_cons, List.mem_cons, Ne.symm h,
          false_or]
        split <;> rfl

theorem drop_append (h : key ∉ front.map Prod.fst) :
    drop key (front ++ back) = front ++ drop key back := by
  induction front with
  | nil => rfl
  | cons entry rest ih =>
      rw [List.map_cons, List.mem_cons, not_or] at h
      rw [List.cons_append, drop, if_neg (Ne.symm h.1), ih h.2, List.cons_append]

theorem lastFirst_concat (entries : List (String × α)) (entry : String × α) :
    lastFirst (entries ++ [entry]) = entry :: entries := by
  cases entries with
  | nil => rfl
  | cons first rest =>
      rw [List.cons_append, lastFirst]
      have hne : first :: (rest ++ [entry]) = first :: rest ++ [entry] := rfl
      simp only [hne, List.getLast_append_singleton, List.dropLast_concat]

theorem keys_lastFirst {keys : List String} {last : String}
    (h : entries.map Prod.fst = keys ++ [last]) :
    (lastFirst entries).map Prod.fst = last :: keys := by
  obtain ⟨init, final, rfl, rfl, hfinal⟩ := List.map_eq_append_iff.mp h
  obtain ⟨entry, rfl, rfl⟩ := List.map_eq_singleton_iff.mp hfinal
  rw [lastFirst_concat, List.map_cons]

/-- The keys before a removed one stay, and the last of those behind it comes first of them. -/
theorem exists_keys_erase
    {before after : List String}
    (hkeys : map.entries.map Prod.fst = before ++ key :: after) :
    ∃ rest : List (String × α), rest.map Prod.fst = after ∧
      (map.erase key).entries.map Prod.fst = before ++ (lastFirst rest).map Prod.fst := by
  have hnotmem : key ∉ before := by
    have hnodup := map.nodup_keys
    rw [hkeys, List.nodup_append] at hnodup
    exact fun hmem => hnodup.2.2 key hmem key List.mem_cons_self rfl
  obtain ⟨front, back, hentries, rfl, hback⟩ := List.map_eq_append_iff.mp hkeys
  obtain ⟨entry, rest, rfl, hentry, hrest⟩ := List.map_eq_cons_iff.mp hback
  refine ⟨rest, hrest, ?_⟩
  change (drop key map.entries).map Prod.fst = _
  rw [hentries, drop_append hnotmem, drop, if_pos hentry, List.map_append]

theorem keys_erase_of_concat
    {before after : List String} {final : String}
    (hkeys : map.entries.map Prod.fst = before ++ key :: (after ++ [final])) :
    (map.erase key).entries.map Prod.fst = before ++ final :: after := by
  obtain ⟨rest, hrest, herase⟩ := exists_keys_erase hkeys
  rw [herase, keys_lastFirst hrest]

theorem keys_erase_of_last
    {before : List String} (hkeys : map.entries.map Prod.fst = before ++ [key]) :
    (map.erase key).entries.map Prod.fst = before := by
  obtain ⟨rest, hrest, herase⟩ := exists_keys_erase hkeys
  rw [herase, List.map_eq_nil_iff.mp hrest, lastFirst, List.map_nil, List.append_nil]

end Placement

end ValueSchema.OrderedMap

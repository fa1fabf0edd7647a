/-!
# Maps that remember the order of insertion

A map from texts to values with its entries in order.  Overwriting a key keeps its place and a new
key goes last.  Erasing a key moves the last entry into its place, so the entries after it do not
shift.  The main statements say what each operation does to look-up.
-/

namespace ValueSchema

/-- The entries of a map, each key once. -/
structure OrderedMap (α : Type) where
  entries : List (String × α)
  nodup_keys : (entries.map Prod.fst).Nodup

namespace OrderedMap

variable {α : Type}

/-- The value of the first entry with the key. -/
def lookup (key : String) : List (String × α) → Option α
  | [] => none
  | entry :: rest => if entry.1 = key then some entry.2 else lookup key rest

/-- Overwrites the first entry with the key, or appends an entry. -/
def put (key : String) (value : α) : List (String × α) → List (String × α)
  | [] => [(key, value)]
  | entry :: rest => if entry.1 = key then (key, value) :: rest else entry :: put key value rest

/-- Moves the last entry to the front. -/
def lastFirst : List (String × α) → List (String × α)
  | [] => []
  | entry :: rest => (entry :: rest).getLast (by simp) :: (entry :: rest).dropLast

/-- Removes the first entry with the key and fills its place with the last entry. -/
def drop (key : String) : List (String × α) → List (String × α)
  | [] => []
  | entry :: rest => if entry.1 = key then lastFirst rest else entry :: drop key rest

theorem lookup_eq_none_iff {key : String} {entries : List (String × α)} :
    lookup key entries = none ↔ key ∉ entries.map Prod.fst := by
  induction entries with
  | nil => simp [lookup]
  | cons entry rest ih =>
    by_cases h : entry.1 = key
    · simp [lookup, h]
    · simp [lookup, h, ih, Ne.symm h]

theorem mem_of_lookup_eq_some {key : String} {value : α} {entries : List (String × α)}
    (h : lookup key entries = some value) : (key, value) ∈ entries := by
  induction entries with
  | nil => simp [lookup] at h
  | cons entry rest ih =>
    by_cases hkey : entry.1 = key
    · simp only [lookup, hkey, if_true, Option.some.injEq] at h
      subst h
      exact List.mem_cons.mpr (Or.inl (Prod.ext hkey.symm rfl))
    · simp only [lookup, hkey, if_false] at h
      exact List.mem_cons_of_mem _ (ih h)

theorem lookup_eq_some_of_mem {key : String} {value : α} {entries : List (String × α)}
    (hnodup : (entries.map Prod.fst).Nodup) (h : (key, value) ∈ entries) :
    lookup key entries = some value := by
  induction entries with
  | nil => simp at h
  | cons entry rest ih =>
    rw [List.map_cons, List.nodup_cons] at hnodup
    rcases List.mem_cons.mp h with h | h
    · simp [lookup, ← h]
    · have hkey : entry.1 ≠ key := by
        intro he
        exact hnodup.1 (he ▸ List.mem_map.mpr ⟨(key, value), h, rfl⟩)
      simp [lookup, hkey, ih hnodup.2 h]

theorem lookup_perm {left right : List (String × α)} (hperm : left.Perm right)
    (hnodup : (left.map Prod.fst).Nodup) (key : String) :
    lookup key left = lookup key right := by
  have hright : (right.map Prod.fst).Nodup := (hperm.map Prod.fst).nodup_iff.mp hnodup
  cases h : lookup key left with
  | none =>
    rw [lookup_eq_none_iff, (hperm.map Prod.fst).mem_iff] at h
    exact (lookup_eq_none_iff.mpr h).symm
  | some value =>
    exact (lookup_eq_some_of_mem hright (hperm.mem_iff.mp (mem_of_lookup_eq_some h))).symm

theorem lookup_put (key other : String) (value : α) (entries : List (String × α)) :
    lookup other (put key value entries) =
      if other = key then some value else lookup other entries := by
  induction entries with
  | nil => simp [put, lookup, eq_comm]
  | cons entry rest ih =>
    by_cases h : entry.1 = key
    · by_cases ho : other = key
      · simp [put, h, lookup, ho]
      · simp [put, h, lookup, ho, Ne.symm ho]
    · by_cases ho : entry.1 = other
      · have : other ≠ key := fun e => h (ho.trans e)
        simp [put, lookup, ho, this]
      · simp [put, h, lookup, ho, ih]

theorem keys_put_of_mem {key : String} (value : α) {entries : List (String × α)}
    (h : key ∈ entries.map Prod.fst) :
    (put key value entries).map Prod.fst = entries.map Prod.fst := by
  induction entries with
  | nil => simp at h
  | cons entry rest ih =>
    by_cases hkey : entry.1 = key
    · simp [put, hkey]
    · have hrest : key ∈ rest.map Prod.fst := by
        rcases List.mem_cons.mp h with h | h
        · exact absurd h.symm hkey
        · exact h
      simp [put, hkey, ih hrest]

theorem put_of_not_mem {key : String} (value : α) {entries : List (String × α)}
    (h : key ∉ entries.map Prod.fst) : put key value entries = entries ++ [(key, value)] := by
  induction entries with
  | nil => rfl
  | cons entry rest ih =>
    rw [List.map_cons, List.mem_cons, not_or] at h
    simp [put, Ne.symm h.1, ih h.2]

theorem lastFirst_perm (entries : List (String × α)) : (lastFirst entries).Perm entries := by
  cases entries with
  | nil => exact List.Perm.refl _
  | cons entry rest =>
    have h := List.dropLast_concat_getLast (List.cons_ne_nil entry rest)
    calc lastFirst (entry :: rest)
        = (entry :: rest).getLast (by simp) :: (entry :: rest).dropLast := rfl
      _ |>.Perm ((entry :: rest).dropLast ++ [(entry :: rest).getLast (by simp)]) :=
          (List.perm_append_singleton _ _).symm
      _ |>.Perm (entry :: rest) := List.Perm.of_eq h

/-- Dropping a key leaves the other entries, in some order. -/
theorem drop_perm (key : String) {entries : List (String × α)}
    (hnodup : (entries.map Prod.fst).Nodup) :
    (drop key entries).Perm (entries.filter fun entry => entry.1 ≠ key) := by
  induction entries with
  | nil => exact List.Perm.refl _
  | cons entry rest ih =>
    rw [List.map_cons, List.nodup_cons] at hnodup
    by_cases h : entry.1 = key
    · have hrest : rest.filter (fun entry => entry.1 ≠ key) = rest := by
        rw [List.filter_eq_self]
        intro other hother
        have : other.1 ≠ key := by
          intro he
          exact hnodup.1 (h ▸ he ▸ List.mem_map_of_mem hother)
        simpa using this
      simp only [drop, h, if_true, ne_eq, not_true_eq_false, decide_false,
        Bool.false_eq_true, not_false_eq_true, List.filter_cons_of_neg]
      rw [hrest]
      exact lastFirst_perm rest
    · simp only [drop, h, if_false, ne_eq, not_false_eq_true, decide_true,
        List.filter_cons_of_pos]
      exact (ih hnodup.2).cons entry

theorem nodup_keys_drop (key : String) {entries : List (String × α)}
    (hnodup : (entries.map Prod.fst).Nodup) : ((drop key entries).map Prod.fst).Nodup := by
  rw [((drop_perm key hnodup).map Prod.fst).nodup_iff]
  exact hnodup.sublist (List.filter_sublist.map Prod.fst)

theorem nodup_keys_put (key : String) (value : α) {entries : List (String × α)}
    (hnodup : (entries.map Prod.fst).Nodup) :
    ((put key value entries).map Prod.fst).Nodup := by
  by_cases h : key ∈ entries.map Prod.fst
  · rwa [keys_put_of_mem value h]
  · rw [put_of_not_mem value h, List.map_append, List.map_singleton]
    apply List.nodup_append.mpr
    refine ⟨hnodup, by simp, ?_⟩
    intro a ha b hb hab
    simp only [List.mem_singleton] at hb
    exact h (hb ▸ hab ▸ ha)

theorem lookup_drop (key other : String) {entries : List (String × α)}
    (hnodup : (entries.map Prod.fst).Nodup) :
    lookup other (drop key entries) = if other = key then none else lookup other entries := by
  rw [lookup_perm (drop_perm key hnodup) (nodup_keys_drop key hnodup)]
  induction entries with
  | nil => simp [lookup]
  | cons entry rest ih =>
    rw [List.map_cons, List.nodup_cons] at hnodup
    have ih := ih hnodup.2
    by_cases h : entry.1 = key
    · by_cases ho : other = key
      · simpa [h, ho] using ih
      · have : key ≠ other := Ne.symm ho
        simpa [h, ho, lookup, this] using ih
    · by_cases ho : entry.1 = other
      · have : other ≠ key := fun e => h (ho.trans e)
        simp [ho, lookup, this]
      · simpa [h, lookup, ho] using ih

def empty : OrderedMap α := ⟨[], by simp⟩

instance : EmptyCollection (OrderedMap α) := ⟨empty⟩

instance : Inhabited (OrderedMap α) := ⟨empty⟩

def get? (map : OrderedMap α) (key : String) : Option α := lookup key map.entries

def contains (map : OrderedMap α) (key : String) : Bool := (map.get? key).isSome

def size (map : OrderedMap α) : Nat := map.entries.length

def isEmpty (map : OrderedMap α) : Bool := map.entries.isEmpty

/-- Sets the value under the key, in place if the key is there. -/
def insert (map : OrderedMap α) (key : String) (value : α) : OrderedMap α :=
  ⟨put key value map.entries, nodup_keys_put key value map.nodup_keys⟩

/-- Removes the key; the last entry takes its place. -/
def erase (map : OrderedMap α) (key : String) : OrderedMap α :=
  ⟨drop key map.entries, nodup_keys_drop key map.nodup_keys⟩

def ofList (entries : List (String × α)) : OrderedMap α :=
  entries.foldl (fun map entry => map.insert entry.1 entry.2) empty

theorem foldl_insert_entries (entries : List (String × α)) (map : OrderedMap α)
    (h : ((map.entries ++ entries).map Prod.fst).Nodup) :
    (entries.foldl (fun map entry => map.insert entry.1 entry.2) map).entries =
      map.entries ++ entries := by
  induction entries generalizing map with
  | nil => simp
  | cons entry rest ih =>
    have hnew : entry.1 ∉ map.entries.map Prod.fst := by
      rw [List.map_append, List.nodup_append] at h
      intro hmem
      exact h.2.2 entry.1 hmem entry.1 (by simp) rfl
    have hinsert : (map.insert entry.1 entry.2).entries = map.entries ++ [entry] :=
      put_of_not_mem entry.2 hnew
    have happend : map.entries ++ [entry] ++ rest = map.entries ++ entry :: rest := by simp
    rw [List.foldl_cons, ih (map.insert entry.1 entry.2) (by rwa [hinsert, happend]), hinsert,
      happend]

/-- A list whose keys are unique is kept as it is. -/
theorem entries_ofList {entries : List (String × α)} (h : (entries.map Prod.fst).Nodup) :
    (ofList entries).entries = entries := by
  have := foldl_insert_entries entries empty (by simpa [empty] using h)
  simpa [ofList, empty] using this

@[ext] theorem ext {left right : OrderedMap α} (h : left.entries = right.entries) :
    left = right := by
  cases left
  cases right
  simpa using h

theorem get?_insert (map : OrderedMap α) (key other : String) (value : α) :
    (map.insert key value).get? other = if other = key then some value else map.get? other :=
  lookup_put key other value map.entries

theorem get?_erase (map : OrderedMap α) (key other : String) :
    (map.erase key).get? other = if other = key then none else map.get? other :=
  lookup_drop key other map.nodup_keys

end OrderedMap

end ValueSchema

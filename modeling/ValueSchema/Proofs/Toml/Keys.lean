import ValueSchema.Toml.Document

/-!
# Keys of a document

Every statement of a document keeps the keys of the root table unique, so that a document that can
be read has no key twice in its root table.
-/

namespace ValueSchema.Toml

namespace Table

variable {table next : Table} {key : String} {value : Value}

def HasUniqueKeys (table : Table) : Prop := (table.entries.map Prod.fst).Nodup

theorem HasUniqueKeys.put
    (h : table.HasUniqueKeys) (key : String) (value : Value) :
    (table.put key value).HasUniqueKeys :=
  OrderedMap.nodup_keys_put key value h

theorem HasUniqueKeys.remove
    (h : table.HasUniqueKeys) (key : String) :
    (table.remove key).HasUniqueKeys :=
  h.sublist (List.filter_sublist.map Prod.fst)

theorem HasUniqueKeys.of_add
    (h : table.HasUniqueKeys) (hadd : table.add key value = some next) :
    next.HasUniqueKeys := by
  unfold add at hadd
  split at hadd
  · cases hadd
  · rw [← Option.some.inj hadd]
    exact h.put key value

/-- A change at the end of a path of tables puts one entry into the table at its beginning. -/
theorem exists_eq_put_of_change
    {β : Type} {dotted : Bool} {act : Table → Option (β × Table)} {path : List String}
    {result : β} (hchange : change dotted act (key :: path) table = some (result, next)) :
    ∃ value, next = table.put key value := by
  rw [change] at hchange
  split at hchange
  · obtain ⟨⟨_, child⟩, -, h⟩ := Option.bind_eq_some_iff.mp hchange
    exact ⟨_, (congrArg Prod.snd (Option.some.inj h)).symm⟩
  · split at hchange
    · obtain ⟨⟨_, child⟩, -, h⟩ := Option.bind_eq_some_iff.mp hchange
      exact ⟨_, (congrArg Prod.snd (Option.some.inj h)).symm⟩
    · cases hchange
  · obtain ⟨last, -, h⟩ := Option.bind_eq_some_iff.mp hchange
    obtain ⟨⟨_, child⟩, -, h⟩ := Option.bind_eq_some_iff.mp h
    exact ⟨_, (congrArg Prod.snd (Option.some.inj h)).symm⟩
  · cases hchange

theorem HasUniqueKeys.of_change
    {β : Type} {dotted : Bool} {act : Table → Option (β × Table)} {path : List String}
    {result : β}
    (hact : ∀ target changed, target.HasUniqueKeys → act target = some (result, changed) →
      changed.HasUniqueKeys)
    (h : table.HasUniqueKeys) (hchange : change dotted act path table = some (result, next)) :
    next.HasUniqueKeys := by
  cases path with
  | nil => exact hact table next h hchange
  | cons key path =>
      obtain ⟨value, rfl⟩ := exists_eq_put_of_change hchange
      exact h.put key value

theorem HasUniqueKeys.of_assign
    {path : List String} (h : table.HasUniqueKeys)
    (hassign : table.assign path key value = some next) :
    next.HasUniqueKeys := by
  obtain ⟨⟨result, changed⟩, hchange, rfl⟩ := Option.map_eq_some_iff.mp hassign
  refine h.of_change ?_ hchange
  intro target assigned htarget hact
  split at hact
  · cases hact
  · obtain ⟨added, hadd, hadded⟩ := Option.map_eq_some_iff.mp hact
    rw [← (Prod.mk.inj hadded).2]
    exact htarget.of_add hadd

end Table

namespace Builder

variable {b next : Builder}

/-- The keys of the root table are unique, and those of the table that assignments go to if that is
the root table. -/
structure HasUniqueKeys (b : Builder) : Prop where
  root : b.root.HasUniqueKeys
  current : b.place = .root → b.current.HasUniqueKeys

theorem hasUniqueKeys_start : ({} : Builder).HasUniqueKeys :=
  ⟨List.nodup_nil, fun _ => List.nodup_nil⟩

theorem HasUniqueKeys.of_close
    {root : Table} (h : b.HasUniqueKeys) (hclose : b.close = some root) :
    root.HasUniqueKeys := by
  unfold close at hclose
  split at hclose
  · rename_i hplace
    rw [← Option.some.inj hclose]
    exact h.current hplace
  · obtain ⟨⟨result, changed⟩, hchange, rfl⟩ := Option.map_eq_some_iff.mp hclose
    refine h.root.of_change ?_ hchange
    intro parent filed hparent hact
    obtain ⟨added, hadd, hadded⟩ := Option.map_eq_some_iff.mp hact
    rw [← (Prod.mk.inj hadded).2]
    exact hparent.of_add hadd
  · obtain ⟨⟨result, changed⟩, hchange, rfl⟩ := Option.map_eq_some_iff.mp hclose
    refine h.root.of_change ?_ hchange
    intro parent filed hparent hact
    split at hact
    · rw [← (Prod.mk.inj (Option.some.inj hact)).2]
      exact hparent.put _ _
    · rw [← (Prod.mk.inj (Option.some.inj hact)).2]
      exact hparent.put _ _
    · cases hact

theorem hasUniqueKeys_of_takeTable
    {key : String} {entries : List (String × Value)} {parent taken : Table}
    (h : parent.HasUniqueKeys) (htake : takeTable key parent = some (entries, taken)) :
    taken.HasUniqueKeys := by
  unfold takeTable at htake
  split at htake
  · rwa [← (Prod.mk.inj (Option.some.inj htake)).2]
  · rw [← (Prod.mk.inj (Option.some.inj htake)).2]
    exact h.remove key
  · cases htake

theorem hasUniqueKeys_of_takeElement
    {key : String} {parent taken : Table}
    (h : parent.HasUniqueKeys) (htake : takeElement key parent = some ((), taken)) :
    taken.HasUniqueKeys := by
  unfold takeElement at htake
  split at htake
  · rw [← (Prod.mk.inj (Option.some.inj htake)).2]
    exact h.put key _
  · rwa [← (Prod.mk.inj (Option.some.inj htake)).2]
  · cases htake

theorem HasUniqueKeys.step
    (h : b.HasUniqueKeys) {statement : Statement} (hstep : b.step statement = some next) :
    next.HasUniqueKeys := by
  cases statement with
  | assign path key value =>
      obtain ⟨current, hcurrent, hnext⟩ := Option.bind_eq_some_iff.mp hstep
      rw [← Option.some.inj hnext]
      exact ⟨h.root, fun hplace => (h.current hplace).of_assign hcurrent⟩
  | table path key =>
      obtain ⟨root, hroot, hstep⟩ := Option.bind_eq_some_iff.mp hstep
      obtain ⟨⟨entries, taken⟩, htaken, hnext⟩ := Option.bind_eq_some_iff.mp hstep
      rw [← Option.some.inj hnext]
      refine ⟨(h.of_close hroot).of_change ?_ htaken, fun hplace => nomatch hplace⟩
      exact fun parent rest => hasUniqueKeys_of_takeTable
  | element path key =>
      obtain ⟨root, hroot, hstep⟩ := Option.bind_eq_some_iff.mp hstep
      obtain ⟨⟨⟨⟩, taken⟩, htaken, hnext⟩ := Option.bind_eq_some_iff.mp hstep
      rw [← Option.some.inj hnext]
      refine ⟨(h.of_close hroot).of_change ?_ htaken, fun hplace => nomatch hplace⟩
      exact fun parent rest => hasUniqueKeys_of_takeElement

theorem HasUniqueKeys.steps
    {statements : List Statement} (h : b.HasUniqueKeys)
    (hsteps : statements.foldlM Builder.step b = some next) :
    next.HasUniqueKeys := by
  induction statements generalizing b with
  | nil =>
      rw [← Option.some.inj hsteps]
      exact h
  | cons statement rest ih =>
      rw [List.foldlM_cons] at hsteps
      obtain ⟨middle, hmiddle, hrest⟩ := Option.bind_eq_some_iff.mp hsteps
      exact ih (h.step hmiddle) hrest

end Builder

/-- The root table of a document has no key twice. -/
theorem nodup_keys_of_read?
    {text : String} {entries : List (String × Value)} (h : read? text = some entries) :
    (entries.map Prod.fst).Nodup := by
  obtain ⟨found, -, h⟩ := Option.bind_eq_some_iff.mp h
  obtain ⟨root, hroot, hentries⟩ := Option.bind_eq_some_iff.mp h
  obtain ⟨built, hbuilt, hclose⟩ := Option.bind_eq_some_iff.mp hroot
  rw [← Option.some.inj hentries]
  exact (Builder.hasUniqueKeys_start.steps hbuilt).of_close hclose

end ValueSchema.Toml

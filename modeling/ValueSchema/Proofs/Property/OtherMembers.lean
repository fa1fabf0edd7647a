import ValueSchema.Proofs.Filter.Representation
import ValueSchema.Proofs.OrderedMap

/-!
# Members that are no keywords

A copy between objects keeps every member of the destination that is no keyword, but not always the
order of these members: when a keyword goes, the last member of the object takes its place.  The
order is safe while no keyword that goes stands before two other members.  The bound is sharp: to
every destination where some keyword stands before two other members, there is a source that changes
their order.
-/

namespace ValueSchema.JsonObject

open OrderedMap

def isOther (key : String) : Bool := decide (key ∉ schemaKeywords)

theorem isOther_eq_false {key : String} (h : key ∈ schemaKeywords) : isOther key = false :=
  decide_eq_false (not_not_intro h)

def others (object : JsonObject) : List (String × Json) :=
  object.entries.filter fun entry => isOther entry.1

def othersBehind (object : JsonObject) (key : String) : List (String × Json) :=
  (behind key object.entries).filter fun entry => isOther entry.1

variable {source destination object : JsonObject} {name : String} {value : Json}
  {entries : List (String × Json)}

theorem isNull_getD_iff :
    ((source.get? name).getD .null).isNull = true ↔ source.present? name = none := by
  rw [present?_eq]
  split <;> simp [*]

/-! ## Members are kept -/

theorem others_store_perm (hname : name ∈ schemaKeywords) (value : Json) :
    (object.store name value).others.Perm object.others := by
  unfold store
  split
  · exact filter_drop_perm (isOther_eq_false hname) object.entries
  · exact List.Perm.of_eq (filter_put (isOther_eq_false hname) value object.entries)

theorem others_storeAll_perm
    (source destination : JsonObject) {names : List String} (hnames : names ⊆ schemaKeywords) :
    (source.storeAll destination names).others.Perm destination.others := by
  induction names generalizing destination with
  | nil => exact List.Perm.refl _
  | cons name rest ih =>
      obtain ⟨hname, hrest⟩ := List.cons_subset.mp hnames
      exact (ih (destination.store name _) hrest).trans (others_store_perm hname _)

/-! ## Members stay in order -/

/-- No keyword that the source lacks stands before two members that are no keywords: up to the first
such keyword nothing moves, and behind it there is at most one such member. -/
def InOrder (source : JsonObject) (entries : List (String × Json)) : Prop :=
  ∃ front back, entries = front ++ back ∧
    (∀ key ∈ front.map Prod.fst, key ∈ schemaKeywords → source.present? key ≠ none) ∧
    (back.filter fun entry => isOther entry.1).length ≤ 1

theorem inOrder_of_behind
    (h : ∀ key ∈ schemaKeywords, source.present? key = none →
      ((behind key entries).filter fun entry => isOther entry.1).length ≤ 1) :
    InOrder source entries := by
  induction entries with
  | nil => exact ⟨[], [], rfl, nofun, Nat.zero_le 1⟩
  | cons entry rest ih =>
      by_cases hgone : entry.1 ∈ schemaKeywords ∧ source.present? entry.1 = none
      · refine ⟨[], entry :: rest, rfl, nofun, ?_⟩
        have hrest := h entry.1 hgone.1 hgone.2
        rw [behind, if_pos rfl] at hrest
        simpa [isOther_eq_false hgone.1] using hrest
      · have hrest : InOrder source rest := by
          refine ih fun key hkey hnone => ?_
          have hne : entry.1 ≠ key := by
            rintro rfl
            exact hgone ⟨hkey, hnone⟩
          have hbehind := h key hkey hnone
          rwa [behind, if_neg hne] at hbehind
        obtain ⟨front, back, rfl, hfront, hback⟩ := hrest
        refine ⟨entry :: front, back, rfl, ?_, hback⟩
        rw [List.map_cons, List.forall_mem_cons]
        exact ⟨fun hkey hnone => hgone ⟨hkey, hnone⟩, hfront⟩

/-- To set or remove a keyword after the source keeps the order of the other members. -/
theorem InOrder.store
    (h : InOrder source object.entries) (hname : name ∈ schemaKeywords)
    (hvalue : value.isNull = true ↔ source.present? name = none) :
    InOrder source (object.store name value).entries ∧
      (object.store name value).others = object.others := by
  obtain ⟨front, back, hentries, hfront, hback⟩ := h
  have hother := isOther_eq_false hname
  by_cases hnull : value.isNull = true
  · have hnotmem : name ∉ front.map Prod.fst := fun hmem =>
      hfront name hmem hname (hvalue.mp hnull)
    have hstore : (object.store name value).entries = front ++ drop name back := by
      rw [JsonObject.store, if_pos hnull, ← drop_append hnotmem, ← hentries]
      rfl
    constructor
    · exact ⟨front, drop name back, hstore, hfront,
        (filter_drop_perm hother back).length_eq ▸ hback⟩
    · rw [others, others, hstore, hentries, List.filter_append, List.filter_append,
        filter_drop_of_length_le_one hother hback]
  · have hstore : (object.store name value).entries = put name value object.entries := by
      rw [JsonObject.store, if_neg hnull]
      rfl
    constructor
    · rw [hstore, hentries, put_append]
      by_cases hmem : name ∈ front.map Prod.fst
      · rw [if_pos hmem]
        refine ⟨put name value front, back, rfl, ?_, hback⟩
        rwa [keys_put_of_mem value hmem]
      · rw [if_neg hmem]
        refine ⟨front, put name value back, rfl, hfront, ?_⟩
        rwa [filter_put hother]
    · rw [others, hstore]
      exact filter_put hother value object.entries

theorem InOrder.others_storeAll
    (h : InOrder source destination.entries) {names : List String}
    (hnames : names ⊆ schemaKeywords) :
    (source.storeAll destination names).others = destination.others := by
  induction names generalizing destination with
  | nil => rfl
  | cons name rest ih =>
      obtain ⟨hname, hrest⟩ := List.cons_subset.mp hnames
      have hstore := h.store hname isNull_getD_iff
      exact (ih hstore.1 hrest).trans hstore.2

/-! ## A source that moves a member -/

/-- The keys of an object that loses keywords, where `last` is no keyword.  First a keyword that goes
stands in the slot between `front` and `middle`, and `last` waits with only such keywords behind it;
in the end `last` stands in the slot itself.  The keys of `front` and `middle` stay. -/
inductive MovesLast (front middle : List String) (last : String) : List String → Prop
  | waiting (slot : String) (tail : List String)
      (hslot : slot ∈ schemaKeywords) (htail : tail ⊆ schemaKeywords) :
      MovesLast front middle last (front ++ slot :: (middle ++ last :: tail))
  | moved : MovesLast front middle last (front ++ last :: middle)

variable {front middle : List String} {last : String}

theorem MovesLast.erase
    (h : MovesLast front middle last (object.entries.map Prod.fst))
    (hname : name ∉ front ++ middle) (hlast : name ≠ last) :
    MovesLast front middle last ((object.erase name).entries.map Prod.fst) := by
  by_cases hmem : name ∈ object.entries.map Prod.fst
  · generalize hkeys : object.entries.map Prod.fst = keys at h hmem
    cases h with
    | waiting slot tail hslot htail =>
        have hplace : name = slot ∨ name ∈ tail := by
          simp only [List.mem_append, List.mem_cons] at hmem hname
          tauto
        rcases hplace with rfl | hplace
        · -- The last key takes the slot; it is the other one when nothing stands behind it.
          rcases List.eq_nil_or_concat' tail with rfl | ⟨init, final, rfl⟩
          · rw [keys_erase_of_concat hkeys]
            exact .moved
          · obtain ⟨hinit, hfinal⟩ := List.append_subset.mp htail
            have hsplit : middle ++ last :: (init ++ [final]) =
                (middle ++ last :: init) ++ [final] := by simp
            rw [hsplit] at hkeys
            rw [keys_erase_of_concat hkeys]
            exact .waiting final init (hfinal List.mem_cons_self) hinit
        · obtain ⟨init, rest, rfl⟩ := List.append_of_mem hplace
          obtain ⟨hinit, hrest⟩ := List.append_subset.mp htail
          have hjoin : ∀ keys, (front ++ slot :: (middle ++ last :: init)) ++ keys =
              front ++ slot :: (middle ++ last :: (init ++ keys)) := by simp
          rw [← hjoin] at hkeys
          rcases List.eq_nil_or_concat' rest with rfl | ⟨rest, final, rfl⟩
          · rw [keys_erase_of_last hkeys]
            exact .waiting slot init hslot hinit
          · have hmoved : final :: rest ⊆ schemaKeywords := fun key hkey =>
              hrest (List.mem_cons_of_mem name (by simpa [or_comm] using hkey))
            rw [keys_erase_of_concat hkeys, hjoin]
            exact .waiting slot (init ++ final :: rest) hslot
              (List.append_subset.mpr ⟨hinit, hmoved⟩)
    | moved =>
        simp only [List.mem_append, List.mem_cons] at hmem hname
        tauto
  · have hnone : object.get? name = none := lookup_eq_none_iff.mpr hmem
    rwa [erase_of_get?_eq_none hnone]

theorem MovesLast.insert
    (h : MovesLast front middle last (object.entries.map Prod.fst)) (hname : name ∈ front ++ middle)
    (value : Json) :
    MovesLast front middle last ((object.insert name value).entries.map Prod.fst) := by
  have hmem : name ∈ object.entries.map Prod.fst := by
    generalize object.entries.map Prod.fst = keys at h
    cases h with
    | _ =>
        simp only [List.mem_append, List.mem_cons] at hname ⊢
        tauto
  change MovesLast front middle last ((put name value object.entries).map Prod.fst)
  rwa [keys_put_of_mem value hmem]

theorem MovesLast.storeAll
    (h : MovesLast front middle last (destination.entries.map Prod.fst))
    (hlast : last ∉ schemaKeywords)
    (hsource : ∀ key, source.present? key = none ↔ key ∉ front ++ middle)
    {names : List String} (hnames : names ⊆ schemaKeywords) :
    MovesLast front middle last ((source.storeAll destination names).entries.map Prod.fst) := by
  induction names generalizing destination with
  | nil => exact h
  | cons name rest ih =>
      obtain ⟨hname, hrest⟩ := List.cons_subset.mp hnames
      refine ih ?_ hrest
      change MovesLast front middle last ((destination.store name _).entries.map Prod.fst)
      rw [JsonObject.store]
      by_cases hmem : name ∈ front ++ middle
      · have hpresent : ¬((source.get? name).getD .null).isNull = true := by
          rw [isNull_getD_iff, hsource]
          exact not_not_intro hmem
        rw [if_neg hpresent]
        exact h.insert hmem _
      · rw [if_pos (isNull_getD_iff.mpr ((hsource name).mpr hmem))]
        exact h.erase hmem fun heq => hlast (heq ▸ hname)

def ofKeys (keys : List String) (h : keys.Nodup) : JsonObject where
  entries := keys.map fun key => (key, .boolean true)
  nodup_keys := by
    rw [List.map_map]
    exact (List.map_id keys).symm ▸ h

theorem present?_ofKeys_eq_none_iff
    {keys : List String} {h : keys.Nodup} : (ofKeys keys h).present? name = none ↔ name ∉ keys := by
  by_cases hmem : name ∈ keys
  · have hentry : (name, .boolean true) ∈ (ofKeys keys h).entries := List.mem_map_of_mem hmem
    rw [present?, mem_entries_iff.mp hentry]
    simp [hmem, Option.filter, Json.isNull]
  · have hkeys : name ∉ (ofKeys keys h).entries.map Prod.fst := by
      simpa [ofKeys, List.map_map] using hmem
    have hget : (ofKeys keys h).get? name = none := lookup_eq_none_iff.mpr hkeys
    rw [present?, hget]
    exact ⟨fun _ => hmem, fun _ => rfl⟩

theorem keys_others (object : JsonObject) :
    object.others.map Prod.fst = (object.entries.map Prod.fst).filter isOther := by
  rw [others, List.filter_map]
  rfl

theorem exists_last_other
    {keys : List String} (h : 1 < (keys.filter isOther).length) :
    ∃ middle last tail, keys = middle ++ last :: tail ∧ last ∉ schemaKeywords ∧
      tail ⊆ schemaKeywords ∧ middle.filter isOther ≠ [] := by
  rcases List.eq_nil_or_concat' (keys.filter isOther) with hnil | ⟨init, last, hconcat⟩
  · rw [hnil] at h
    cases h
  · obtain ⟨before, rest, rfl, hbefore, hrest⟩ := List.filter_eq_append_iff.mp hconcat
    obtain ⟨between, tail, rfl, hbetween, hlast, htail⟩ := List.filter_eq_cons_iff.mp hrest
    refine ⟨before ++ between, last, tail, by simp, of_decide_eq_true hlast, ?_, ?_⟩
    · intro key hkey
      have hnot := List.filter_eq_nil_iff.mp htail key hkey
      simpa [isOther] using hnot
    · intro hnil
      rw [List.filter_append, hbefore, List.append_eq_nil_iff] at hnil
      rw [hconcat, hnil.1] at h
      exact absurd h (Nat.lt_irrefl 1)

/-- The source holds the keys before the last other member, less a keyword among them: that member
takes the place of the keyword. -/
theorem exists_source_others_ne_of_keys
    {key : String} {tail : List String}
    (hkeys : destination.entries.map Prod.fst = front ++ key :: (middle ++ last :: tail))
    (hkey : key ∈ schemaKeywords) (hlast : last ∉ schemaKeywords) (htail : tail ⊆ schemaKeywords)
    (hmiddle : middle.filter isOther ≠ []) :
    ∃ source : JsonObject,
      (source.storeAll destination schemaKeywords).others ≠ destination.others := by
  have hnodup := hkeys ▸ destination.nodup_keys
  have hnotmem : last ∉ middle := by
    have hbehind : (middle ++ last :: tail).Nodup := (List.nodup_append.mp hnodup).2.1.of_cons
    exact fun hmem => (List.nodup_append.mp hbehind).2.2 last hmem last List.mem_cons_self rfl
  have hstay : (front ++ middle).Nodup := by
    refine hnodup.sublist (List.Sublist.append_left ?_ front)
    exact (List.sublist_append_left middle (last :: tail)).cons key
  let source := ofKeys (front ++ middle) hstay
  let copied := source.storeAll destination schemaKeywords
  have hmoves : MovesLast front middle last (copied.entries.map Prod.fst) :=
    MovesLast.storeAll (hkeys ▸ .waiting key tail hkey htail) hlast
      (fun _ => present?_ofKeys_eq_none_iff) (List.Subset.refl schemaKeywords)
  have hcopied : copied.entries.map Prod.fst = front ++ last :: middle := by
    generalize hresult : copied.entries.map Prod.fst = result at hmoves
    cases hmoves with
    | moved => rfl
    | waiting slot rest hslot hrest =>
        -- The source lacks the keyword in the slot, so the copy cannot hold it.
        have hout : slot ∉ front ++ (middle ++ last :: rest) :=
          (List.nodup_cons.mp (List.nodup_middle.mp (hresult ▸ copied.nodup_keys))).1
        rw [← List.append_assoc, List.mem_append, not_or] at hout
        have hgone : copied.get? slot = none := by
          rw [get?_storeAll, if_pos hslot, present?_ofKeys_eq_none_iff.mpr hout.1]
        have habsent := lookup_eq_none_iff.mp hgone
        rw [hresult] at habsent
        simp at habsent
  have hselected : isOther last = true := decide_eq_true hlast
  have hunselected : ¬isOther key = true := by simp [isOther_eq_false hkey]
  refine ⟨source, fun heq => ?_⟩
  have hothers := congrArg (List.map Prod.fst) heq
  rw [keys_others, keys_others, hcopied, hkeys, List.filter_append, List.filter_append,
    List.append_cancel_left_eq, List.filter_cons_of_pos hselected,
    List.filter_cons_of_neg hunselected, List.filter_append] at hothers
  obtain ⟨other, rest, hother⟩ := List.exists_cons_of_ne_nil hmiddle
  rw [hother, List.cons_append, List.cons.injEq] at hothers
  have hmem : last ∈ middle := by
    have hfiltered : last ∈ middle.filter isOther := by
      rw [hother, hothers.1]
      exact List.mem_cons_self
    exact List.mem_of_mem_filter hfiltered
  exact hnotmem hmem

theorem exists_source_others_ne
    {key : String} (hkey : key ∈ schemaKeywords) (h : 1 < (destination.othersBehind key).length) :
    ∃ source : JsonObject,
      (source.storeAll destination schemaKeywords).others ≠ destination.others := by
  have hlength : 1 < (((behind key destination.entries).map Prod.fst).filter isOther).length := by
    rw [List.filter_map, List.length_map]
    exact h
  have hne : behind key destination.entries ≠ [] := by
    intro hnil
    rw [hnil] at hlength
    cases hlength
  obtain ⟨front, value, hentries⟩ := exists_eq_append_behind hne
  obtain ⟨middle, last, tail, hbehind, hlast, htail, hmiddle⟩ := exists_last_other hlength
  have hkeys : destination.entries.map Prod.fst =
      front.map Prod.fst ++ key :: (middle ++ last :: tail) := by
    rw [hentries, List.map_append, List.map_cons, hbehind]
  exact exists_source_others_ne_of_keys hkeys hkey hlast htail hmiddle

/-! ## What a copy does to the other members -/

/-- A copy, and so a filter, keeps the members that are no keywords, in their order if no keyword
that goes stands before two of them.  Whatever the source, the order stays if and only if no keyword
of the destination stands before two of them. -/
theorem copy_permutes_others (destination : JsonObject) :
    (∀ source : JsonObject, ∃ copied : JsonObject,
      copyProperties source destination = .ok (schemaKeywords.length, copied) ∧
      copied.others.Perm destination.others ∧
      ((∀ key ∈ schemaKeywords, source.present? key = none →
          (destination.othersBehind key).length ≤ 1) →
        copied.others = destination.others)) ∧
    (∀ (f : SchemaFilter JsonObject) (typeName : String), ∃ replaced filtered,
      (f.apply typeName destination).value = .ok (replaced, filtered) ∧
      filtered.others.Perm destination.others ∧
      ((∀ key ∈ schemaKeywords, (destination.othersBehind key).length ≤ 1) →
        filtered.others = destination.others)) ∧
    ((∀ source written copied, copyProperties source destination = .ok (written, copied) →
        copied.others = destination.others) ↔
      ∀ key ∈ schemaKeywords, (destination.othersBehind key).length ≤ 1) := by
  have hperm : ∀ source : JsonObject,
      (source.storeAll destination schemaKeywords).others.Perm destination.others :=
    fun source => others_storeAll_perm source destination (List.Subset.refl schemaKeywords)
  have horder : ∀ source : JsonObject,
      (∀ key ∈ schemaKeywords, source.present? key = none →
        (destination.othersBehind key).length ≤ 1) →
      (source.storeAll destination schemaKeywords).others = destination.others :=
    fun source h => (inOrder_of_behind h).others_storeAll (List.Subset.refl schemaKeywords)
  refine ⟨fun source => ?_, fun f typeName => ?_, fun h => ?_, fun h => ?_⟩
  · exact ⟨_, copyProperties_eq_ok source destination, hperm source, horder source⟩
  · cases hregistered : f.registry.underlying? typeName with
    | none =>
        exact ⟨false, destination, SchemaFilter.value_apply_of_eq_none hregistered destination,
          List.Perm.refl _, fun _ => rfl⟩
    | some underlyingName =>
        have hvalue := SchemaFilter.value_apply_of_eq_some hregistered destination
        rw [copyProperties_eq_ok] at hvalue
        exact ⟨true, _, hvalue, hperm _, fun h => horder _ fun key hkey _ => h key hkey⟩
  · intro key hkey
    by_contra hlength
    obtain ⟨source, hne⟩ := exists_source_others_ne hkey (Nat.not_le.mp hlength)
    exact hne (h source _ _ (copyProperties_eq_ok source destination))
  · intro source written copied hcopied
    rw [copyProperties_eq_ok] at hcopied
    cases hcopied
    exact horder source fun key hkey _ => h key hkey

/-- A format goes that stands between the reference and one vendor key. -/
theorem copy_permutes_others_of_one_behind :
    let source : JsonObject := ⟨[("type", .string "integer")], by decide⟩
    let destination : JsonObject :=
      ⟨[("type", .string "object"), ("$ref", .string "#/Age"), ("format", .string "int32"),
        ("x-note", .null)], by decide⟩
    ∃ copied : JsonObject,
      copyProperties source destination = .ok (32, copied) ∧
      copied.others = [("$ref", .string "#/Age"), ("x-note", .null)] := by
  intro source destination
  obtain ⟨copied, hcopied, -, horder⟩ := (copy_permutes_others destination).1 source
  have hbehind : ∀ key ∈ schemaKeywords, source.present? key = none →
      (destination.othersBehind key).length ≤ 1 := by decide
  exact ⟨copied, hcopied, horder hbehind⟩

/-- Of two vendor keys behind a format that goes, the last comes first. -/
theorem copy_swaps_vendor_keys :
    ¬∀ (source destination copied : JsonObject) (written : Nat),
      copyProperties source destination = .ok (written, copied) →
        copied.others = destination.others := by
  intro h
  let source : JsonObject := ⟨[("type", .string "integer")], by decide⟩
  let destination : JsonObject :=
    ⟨[("type", .string "object"), ("format", .string "int32"), ("x-a", .integer 1),
      ("x-b", .integer 2)], by decide⟩
  have hothers := h source destination _ _ (copyProperties_eq_ok source destination)
  have hkeys := congrArg (List.map Prod.fst) hothers
  revert hkeys
  decide

end ValueSchema.JsonObject

import Mathlib.Data.List.TakeWhile
import ValueSchema.Unicode.RangeTable

/-!
# Tables compared

Two tables are apart when no range of the one meets a range of the other; then no character is in
both.  A table lies within another when each of its ranges lies in a range of the other.  For tables
whose ranges ascend, one pass over the two decides it: what lies below a range lies below the ranges
after it, too.
-/

namespace ValueSchema.Unicode.RangeTable

variable {left right table : RangeTable}

/-! ## Apart and within -/

/-- No range of one table meets a range of the other. -/
def Apart (left right : RangeTable) : Prop :=
  ∀ range ∈ left, ∀ other ∈ right, range.2 < other.1 ∨ other.2 < range.1

/-- Tables are compared by Boolean comparisons, which the kernel evaluates fast. -/
instance (left right : RangeTable) : Decidable (Apart left right) :=
  decidable_of_iff
    ((left.all fun range => right.all fun other =>
      range.2.blt other.1 || other.2.blt range.1) = true)
    (by simp [Apart, Nat.blt_eq])

theorem Apart.contains_eq_false
    {left right : RangeTable} (h : Apart left right) {c : Char} (hc : left.contains c = true) :
    right.contains c = false := by
  refine eq_false_of_ne_true fun hother => ?_
  obtain ⟨range, hrange, hfirst, hlast⟩ := contains_iff.mp hc
  obtain ⟨other, hmem, hfirst', hlast'⟩ := contains_iff.mp hother
  have hmeet := h range hrange other hmem
  omega

/-- Each range of one table lies in a range of the other. -/
def Within (left right : RangeTable) : Prop :=
  ∀ range ∈ left, ∃ other ∈ right, other.1 ≤ range.1 ∧ range.2 ≤ other.2

theorem Within.contains (h : Within left right) {c : Char} (hc : left.contains c = true) :
    right.contains c = true := by
  obtain ⟨range, hrange, hfirst, hlast⟩ := contains_iff.mp hc
  obtain ⟨other, hother, hfirst', hlast'⟩ := h range hrange
  exact contains_iff.mpr ⟨other, hother, le_trans hfirst' hfirst, le_trans hlast hlast'⟩

/-! ## One pass over ascending tables -/

/-- The ranges ascend, none of them begins below the start, and each holds a code point. -/
def ascendsFrom (start : Nat) : RangeTable → Bool
  | [] => true
  | range :: rest => start.ble range.1 && range.1.ble range.2 && ascendsFrom (range.2 + 1) rest

/-- The table without the ranges at its beginning that lie below a range. -/
def skipBelow (range : Nat × Nat) (table : RangeTable) : RangeTable :=
  table.dropWhile fun other => other.2.blt range.1

/-- No range of one table meets the first range of the other that is not below it. -/
def sweepsApart : RangeTable → RangeTable → Bool
  | [], _ => true
  | range :: rest, table =>
    ((skipBelow range table).head?.all fun other => range.2.blt other.1) &&
      sweepsApart rest (skipBelow range table)

/-- Each table of one list ascends and is told apart from each table of the other. -/
def allApart (lefts rights : List RangeTable) : Bool :=
  lefts.all fun left => rights.all fun right =>
    ascendsFrom 0 left && ascendsFrom 0 right && sweepsApart left right

/-- Each range of one table lies in the first range of the other that is not below it. -/
def sweepsWithin : RangeTable → RangeTable → Bool
  | [], _ => true
  | range :: rest, table =>
    ((skipBelow range table).head?.any fun other =>
        other.1.ble range.1 && range.2.ble other.2) &&
      sweepsWithin rest (skipBelow range table)

theorem ascendsFrom_cons {start : Nat} {range : Nat × Nat} {rest : RangeTable} :
    ascendsFrom start (range :: rest) = true ↔
      start ≤ range.1 ∧ range.1 ≤ range.2 ∧ ascendsFrom (range.2 + 1) rest = true := by
  simp [ascendsFrom, Nat.ble_eq, and_assoc]

theorem le_of_ascendsFrom {start : Nat} (h : ascendsFrom start table = true) :
    ∀ range ∈ table, start ≤ range.1 := by
  induction table generalizing start with
  | nil => nofun
  | cons range rest ih =>
      obtain ⟨hstart, hrange, hrest⟩ := ascendsFrom_cons.mp h
      refine List.forall_mem_cons.mpr ⟨hstart, fun other hother => ?_⟩
      have hother := ih hrest other hother
      omega

theorem exists_ascendsFrom_skipBelow
    {start : Nat} (h : ascendsFrom start table = true) (range : Nat × Nat) :
    ∃ next, ascendsFrom next (skipBelow range table) = true := by
  induction table generalizing start with
  | nil => exact ⟨start, h⟩
  | cons first rest ih =>
      rw [skipBelow, List.dropWhile_cons]
      split
      · exact ih (ascendsFrom_cons.mp h).2.2
      · exact ⟨start, h⟩

theorem mem_skipBelow_or (range : Nat × Nat) {other : Nat × Nat} (h : other ∈ table) :
    other.2 < range.1 ∨ other ∈ skipBelow range table := by
  rw [← List.takeWhile_append_dropWhile (p := fun other => other.2.blt range.1) (l := table),
    List.mem_append] at h
  refine h.imp_left fun hbelow => ?_
  have hblt := List.mem_takeWhile_imp hbelow
  rwa [Nat.blt_eq] at hblt

theorem apart_of_sweepsApart
    {start other : Nat} (hleft : ascendsFrom start left = true)
    (hright : ascendsFrom other right = true) (h : sweepsApart left right = true) :
    Apart left right := by
  induction left generalizing start other right with
  | nil => nofun
  | cons range rest ih =>
      obtain ⟨-, hrange, hrest⟩ := ascendsFrom_cons.mp hleft
      obtain ⟨next, habove⟩ := exists_ascendsFrom_skipBelow hright range
      rw [sweepsApart, Bool.and_eq_true] at h
      obtain ⟨hhead, hsweep⟩ := h
      have hfirst : ∀ met ∈ skipBelow range right, range.2 < met.1 := by
        cases hskipped : skipBelow range right with
        | nil => nofun
        | cons first others =>
            rw [hskipped] at hhead habove
            have hlt : range.2 < first.1 := by simpa [Nat.blt_eq] using hhead
            obtain ⟨-, hfirst, hothers⟩ := ascendsFrom_cons.mp habove
            refine List.forall_mem_cons.mpr ⟨hlt, fun met hmet => ?_⟩
            have hmet := le_of_ascendsFrom hothers met hmet
            omega
      refine List.forall_mem_cons.mpr ⟨fun met hmet => ?_, fun later hlater met hmet => ?_⟩
      · exact (mem_skipBelow_or range hmet).symm.imp_left (hfirst met)
      · -- What was skipped lies below this range, and so below the later ones.
        rcases mem_skipBelow_or range hmet with hbelow | hmet
        · have hlater := le_of_ascendsFrom hrest later hlater
          right
          omega
        · exact ih hrest habove hsweep later hlater met hmet

theorem not_exists_contains_of_allApart
    {lefts rights : List RangeTable} (h : allApart lefts rights = true) {c : Char}
    (hc : ∃ left ∈ lefts, left.contains c = true) :
    ¬ ∃ right ∈ rights, right.contains c = true := by
  rintro ⟨right, hright, hcontains'⟩
  obtain ⟨left, hleft, hcontains⟩ := hc
  have hboth := List.all_eq_true.mp (List.all_eq_true.mp h left hleft) right hright
  rw [Bool.and_eq_true, Bool.and_eq_true] at hboth
  obtain ⟨⟨hascends, hascends'⟩, hsweep⟩ := hboth
  have hnone := (apart_of_sweepsApart hascends hascends' hsweep).contains_eq_false hcontains
  rw [hnone] at hcontains'
  cases hcontains'

theorem within_of_sweepsWithin (h : sweepsWithin left right = true) : Within left right := by
  induction left generalizing right with
  | nil => nofun
  | cons range rest ih =>
      rw [sweepsWithin, Bool.and_eq_true] at h
      obtain ⟨hhead, hsweep⟩ := h
      have hsubset : skipBelow range right ⊆ right := (List.dropWhile_sublist _).subset
      refine List.forall_mem_cons.mpr ⟨?_, fun later hlater => ?_⟩
      · obtain ⟨other, hother, hwithin⟩ := (Option.any_eq_true _ _).mp hhead
        rw [Bool.and_eq_true, Nat.ble_eq, Nat.ble_eq] at hwithin
        exact ⟨other, hsubset (List.mem_of_mem_head? hother), hwithin⟩
      · obtain ⟨other, hother, hwithin⟩ := ih hsweep later hlater
        exact ⟨other, hsubset hother, hwithin⟩

end ValueSchema.Unicode.RangeTable

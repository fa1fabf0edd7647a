import ValueSchema.Unicode.Blank

/-!
# What trimming leaves

The core of a text: what stands between the white space at its two ends.  The main statement,
`trim_eq_iff`, is that trimming gives the core, so a text has just one.
-/

namespace ValueSchema.Unicode

/-- The text is the core with white space around it, and the core has none at its ends. -/
structure IsCore (core text : List Char) : Prop where
  padded : ∃ left right, text = left ++ core ++ right ∧
    (∀ c ∈ left, isWhiteSpace c = true) ∧ ∀ c ∈ right, isWhiteSpace c = true
  head : ∀ c ∈ core.head?, isWhiteSpace c = false
  last : ∀ c ∈ core.getLast?, isWhiteSpace c = false

theorem isWhiteSpace_of_mem_head?_dropWhile
    (text : List Char) {c : Char} (h : c ∈ (text.dropWhile isWhiteSpace).head?) :
    isWhiteSpace c = false := by
  have hhead := List.head?_dropWhile_not isWhiteSpace text
  rw [h] at hhead
  exact hhead

theorem dropWhile_eq_self_of_head?
    {text : List Char} (h : ∀ c ∈ text.head?, isWhiteSpace c = false) :
    text.dropWhile isWhiteSpace = text := by
  cases text with
  | nil => rfl
  | cons c rest => rw [List.dropWhile_cons_of_neg (by simp [h c rfl])]

theorem trim_append (text : List Char) :
    trim text ++ ((text.dropWhile isWhiteSpace).reverse.takeWhile isWhiteSpace).reverse =
      text.dropWhile isWhiteSpace := by
  rw [trim, ← List.reverse_append, List.takeWhile_append_dropWhile, List.reverse_reverse]

theorem isCore_trim (text : List Char) : IsCore (trim text) text where
  padded := by
    refine ⟨text.takeWhile isWhiteSpace,
      ((text.dropWhile isWhiteSpace).reverse.takeWhile isWhiteSpace).reverse, ?_, ?_, ?_⟩
    · rw [List.append_assoc, trim_append, List.takeWhile_append_dropWhile]
    · exact List.all_eq_true.mp List.all_takeWhile
    · intro c hc
      exact List.all_eq_true.mp List.all_takeWhile c (List.mem_reverse.mp hc)
  head c hc := by
    apply isWhiteSpace_of_mem_head?_dropWhile text
    rw [← trim_append, List.head?_append, hc]
    rfl
  last c hc := by
    rw [trim, List.getLast?_reverse] at hc
    exact isWhiteSpace_of_mem_head?_dropWhile _ hc

/-- Trimming gives the core. -/
theorem trim_eq_iff {text core : List Char} : trim text = core ↔ IsCore core text := by
  constructor
  · rintro rfl
    exact isCore_trim text
  · rintro ⟨⟨left, right, rfl, hleft, hright⟩, hhead, hlast⟩
    unfold trim
    rw [List.append_assoc, List.dropWhile_append_of_pos hleft]
    cases core with
    | nil => simp [dropWhile_isWhiteSpace_eq_nil_iff.mpr hright]
    | cons first rest =>
        have hfirst : ∀ c ∈ (first :: rest ++ right).head?, isWhiteSpace c = false := hhead
        have hreverse : ∀ c ∈ (first :: rest).reverse.head?, isWhiteSpace c = false := by
          rwa [List.head?_reverse]
        rw [dropWhile_eq_self_of_head? hfirst, List.reverse_append,
          List.dropWhile_append_of_pos (by simpa using hright),
          dropWhile_eq_self_of_head? hreverse, List.reverse_reverse]

theorem isCore_of_padded
    {left core right : List Char} (hleft : ∀ c ∈ left, isWhiteSpace c = true)
    (hcore : ∀ c ∈ core, isWhiteSpace c = false) (hright : ∀ c ∈ right, isWhiteSpace c = true) :
    IsCore core (left ++ core ++ right) where
  padded := ⟨left, right, rfl, hleft, hright⟩
  head c hc := hcore c (List.mem_of_mem_head? hc)
  last c hc := hcore c (List.mem_of_mem_getLast? hc)

end ValueSchema.Unicode

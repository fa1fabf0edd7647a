/-!
# Marks in a text

A mark is a fixed sequence of characters.  It is taken off the front of a text, or divides a text in
two at the last place where it stands.  The main statement is `append_of_splitAtLast?_eq_some`: what
stands before the mark, the mark, and what stands after it make up the text.
-/

namespace ValueSchema.Text

/-- What stands after a mark at the beginning of a text. -/
def afterMark? : List Char → List Char → Option (List Char)
  | [], text => some text
  | _ :: _, [] => none
  | m :: mark, c :: text => if m = c then afterMark? mark text else none

/-- What stands before and after the last mark in a text. -/
def splitAtLast? (mark : List Char) : List Char → Option (List Char × List Char)
  | [] => none
  | c :: rest =>
    match splitAtLast? mark rest with
    | some (before, after) => some (c :: before, after)
    | none => (afterMark? mark (c :: rest)).map fun after => ([], after)

theorem afterMark?_append (mark text : List Char) :
    afterMark? mark (mark ++ text) = some text := by
  induction mark with
  | nil => rfl
  | cons m mark ih => simp [afterMark?, ih]

theorem append_of_afterMark?_eq_some {mark text after : List Char}
    (h : afterMark? mark text = some after) : mark ++ after = text := by
  induction mark generalizing text with
  | nil => simpa [afterMark?] using h.symm
  | cons m mark ih =>
    cases text with
    | nil => simp [afterMark?] at h
    | cons c rest =>
      by_cases hm : m = c
      · subst hm
        simp only [afterMark?, if_true] at h
        simp [ih h]
      · simp [afterMark?, hm] at h

/-- A text is what stands before its last mark, the mark, and what stands after it. -/
theorem append_of_splitAtLast?_eq_some {mark text before after : List Char}
    (h : splitAtLast? mark text = some (before, after)) : before ++ mark ++ after = text := by
  induction text generalizing before with
  | nil => simp [splitAtLast?] at h
  | cons c rest ih =>
    simp only [splitAtLast?] at h
    split at h
    · rename_i earlier later heq
      obtain ⟨rfl, rfl⟩ := Prod.mk.inj (Option.some.inj h)
      simp [← ih heq]
    · obtain ⟨later, hlater, hpair⟩ := Option.map_eq_some_iff.mp h
      obtain ⟨rfl, rfl⟩ := Prod.mk.inj hpair
      simpa using append_of_afterMark?_eq_some hlater

end ValueSchema.Text

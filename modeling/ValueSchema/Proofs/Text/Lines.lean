import ValueSchema.Text.Lines

/-!
# Texts made of lines

What becomes of a text that was made of lines when it is cut into lines again, at its line feeds or
by `lines`, and when it is indented.  A line comes back as it was if it holds no line feed and does
not end in a carriage return, which would be taken for a part of the line ending.
-/

namespace ValueSchema.Text

theorem map_toList_map_ofList (pieces : List (List Char)) :
    (pieces.map String.ofList).map String.toList = pieces := by
  rw [List.map_map]
  exact (List.map_congr_left fun _ _ => String.toList_ofList).trans (List.map_id pieces)

/-! ## Texts of admitted characters -/

/-- Every character of the text is admitted. -/
def Only (p : Char → Bool) (text : String) : Prop := ∀ c ∈ text.toList, p c = true

variable {p : Char → Bool}

theorem Only.append
    {left right : String} (hleft : Only p left) (hright : Only p right) :
    Only p (left ++ right) := by
  intro c hc
  rw [String.toList_append, List.mem_append] at hc
  exact hc.elim (hleft c) (hright c)

theorem Only.mono
    {q : Char → Bool} {text : String} (hp : Only p text) (h : ∀ c, p c = true → q c = true) :
    Only q text :=
  fun c hc => h c (hp c hc)

/-- The characters of a fixed text are read off its spelling, which is faster than off the text. -/
theorem toList_of_spelling
    {text : String} {chars : List Char} (h : text = String.ofList chars) :
    text.toList = chars := by
  rw [h, String.toList_ofList]

theorem only_of_spelling
    {text : String} {chars : List Char} (htext : text = String.ofList chars)
    (hchars : chars.all p = true) :
    Only p text := by
  intro c hc
  rw [toList_of_spelling htext] at hc
  exact List.all_eq_true.mp hchars c hc

theorem not_mem_of_only
    {text : String} {c : Char} (htext : Only p text) (hc : p c = false) :
    c ∉ text.toList := by
  intro hmem
  rw [htext c hmem] at hc
  cases hc

/-! ## Lines that come back -/

/-- A line that a cut at line endings gives back as it was. -/
structure IsLine (line : String) : Prop where
  newline_not_mem : '\n' ∉ line.toList
  getLast?_ne : line.toList.getLast? ≠ some '\r'

theorem isLine_of_only
    {line : String} (h : Only p line) (hnewline : p '\n' = false) (hreturn : p '\r' = false) :
    IsLine line where
  newline_not_mem := not_mem_of_only h hnewline
  getLast?_ne := fun hlast => not_mem_of_only h hreturn (List.mem_of_getLast? hlast)

theorem IsLine.append_left
    {first last : String} (hfirst : '\n' ∉ first.toList) (hlast : IsLine last)
    (hnonempty : last.toList ≠ []) :
    IsLine (first ++ last) where
  newline_not_mem := by
    rw [String.toList_append, List.mem_append]
    exact fun h => h.elim hfirst hlast.newline_not_mem
  getLast?_ne := by
    obtain ⟨c, hc⟩ := Option.ne_none_iff_exists'.mp
      (fun hnone => hnonempty (List.getLast?_eq_none_iff.mp hnone))
    rw [String.toList_append, List.getLast?_append, hc, Option.some_or, ← hc]
    exact hlast.getLast?_ne

theorem lines_append_newline
    {line : List Char} (hnewline : '\n' ∉ line) (hlast : line.getLast? ≠ some '\r')
    (rest : List Char) :
    lines (line ++ '\n' :: rest) = line :: lines rest := by
  induction line with
  | nil => exact lines_newline_cons rest
  | cons c line ih =>
      rw [List.mem_cons, not_or] at hnewline
      cases line with
      | nil =>
          have hc : c ≠ '\r' := fun h => hlast (by simp [h])
          rw [List.singleton_append, lines_cons_of_ne _ (Ne.symm hnewline.1) hc,
            lines_newline_cons]
          rfl
      | cons d line =>
          -- A carriage return is followed by `d`, which is no line feed, and stays in its line.
          have ih := ih hnewline.2 (by simpa using hlast)
          have hd : '\n' ≠ d := fun h => hnewline.2 (h ▸ List.mem_cons_self)
          rw [List.cons_append, lines.eq_4 c _ (Ne.symm hnewline.1), ih]
          · rfl
          · intro tail _ htail
            exact hd (List.cons.inj htail).1.symm

/-- Lines put together and cut apart are the same lines. -/
theorem lines_unlines
    {texts : List String} (h : ∀ line ∈ texts, IsLine line) :
    lines (unlines texts).toList = texts.map String.toList := by
  induction texts with
  | nil => simp
  | cons line rest ih =>
      have hline := h line (by simp)
      rw [toList_unlines_cons, lines_append_newline hline.newline_not_mem hline.getLast?_ne,
        ih fun other hother => h other (List.mem_cons_of_mem line hother), List.map_cons]

theorem splitOn_unlines
    {texts : List String} (h : ∀ line ∈ texts, '\n' ∉ line.toList) :
    (unlines texts).toList.splitOn '\n' = texts.map String.toList ++ [[]] := by
  induction texts with
  | nil => simp
  | cons line rest ih =>
      rw [toList_unlines_cons, List.splitOn_append_cons_self_of_not_mem (h line (by simp)),
        ih fun other hother => h other (List.mem_cons_of_mem line hother)]
      rfl

theorem unlines_inj
    {left right : List String} (hleft : ∀ line ∈ left, '\n' ∉ line.toList)
    (hright : ∀ line ∈ right, '\n' ∉ line.toList) (h : unlines left = unlines right) :
    left = right := by
  have hpieces : left.map String.toList ++ [[]] = right.map String.toList ++ [[]] := by
    rw [← splitOn_unlines hleft, ← splitOn_unlines hright, h]
  exact (List.map_inj_right fun _ _ => String.toList_inj.mp).mp
    (List.append_cancel_right hpieces)

/-! ## Indentation -/

/-- A line with its indentation, which an empty line goes without. -/
def indentedLine (indent line : String) : String := if line = "" then "" else indent ++ line

theorem indentedLine_of_ne
    {line : String} (h : line ≠ "") (indent : String) :
    indentedLine indent line = indent ++ line :=
  if_neg h

theorem map_indentedLine
    {texts : List String} (h : ∀ line ∈ texts, line ≠ "") (indent : String) :
    texts.map (indentedLine indent) = texts.map (indent ++ ·) :=
  List.map_congr_left fun line hline => indentedLine_of_ne (h line hline) indent

theorem toList_indentedLine (indent line : String) :
    (indentedLine indent line).toList ++ ['\n'] = indentLine indent.toList line.toList := by
  unfold indentedLine indentLine
  by_cases h : line = ""
  · simp [h]
  · have hne : line.toList ≠ [] := fun hnil => h (String.toList_eq_nil_iff.mp hnil)
    simp [h, hne]

theorem flatMap_indentLine (texts : List String) (indent : String) :
    (texts.map String.toList).flatMap (indentLine indent.toList) =
      (unlines (texts.map (indentedLine indent))).toList := by
  induction texts with
  | nil => simp
  | cons line rest ih =>
      rw [List.map_cons, List.map_cons, List.flatMap_cons, ih, ← toList_indentedLine]
      simp

theorem indentLines_unlines
    {texts : List String} (h : ∀ line ∈ texts, IsLine line) (indent : String) :
    indentLines indent.toList (unlines texts).toList =
      (unlines (texts.map (indentedLine indent))).toList := by
  rw [indentLines, lines_unlines h, flatMap_indentLine]

theorem indentedLine_empty (line : String) : indentedLine "" line = line := by
  unfold indentedLine
  by_cases h : line = "" <;> simp [h]

theorem eq_space_of_mem_takeWhile
    {line : List Char} {c : Char} (h : c ∈ line.takeWhile (· = ' ')) :
    c = ' ' :=
  of_decide_eq_true (List.all_eq_true.mp (List.all_takeWhile (l := line)) c h)

theorem newline_not_mem_indentedLine
    {indent line : String} (hindent : '\n' ∉ indent.toList) (hline : '\n' ∉ line.toList) :
    '\n' ∉ (indentedLine indent line).toList := by
  unfold indentedLine
  split
  · simp
  · rw [String.toList_append, List.mem_append]
    exact fun h => h.elim hindent hline

theorem toList_indentedLine_of_ne
    (indent : String) {line : String} (h : line.toList ≠ []) :
    (indentedLine indent line).toList = indent.toList ++ line.toList := by
  have hne : line ≠ "" := fun hempty => h (by rw [hempty]; rfl)
  rw [indentedLine_of_ne hne, String.toList_append]

theorem dropWhile_indentedLine
    {indent line : String} (hindent : Only (fun c => c = ' ') indent) :
    (indentedLine indent line).toList.dropWhile (· = ' ') = line.toList.dropWhile (· = ' ') := by
  unfold indentedLine
  split
  · next hempty => rw [hempty]
  · rw [String.toList_append, List.dropWhile_append_of_pos hindent]

theorem indentedLine_inj
    {indent left right : String} (hindent : indent ≠ "")
    (h : indentedLine indent left = indentedLine indent right) :
    left = right := by
  have happend (line : String) : indent ++ line ≠ "" := by
    intro he
    exact hindent (String.append_eq_empty_iff.mp he).1
  unfold indentedLine at h
  by_cases hleft : left = "" <;> by_cases hright : right = ""
  · rw [hleft, hright]
  · rw [if_pos hleft, if_neg hright] at h
    exact absurd h.symm (happend right)
  · rw [if_neg hleft, if_pos hright] at h
    exact absurd h (happend left)
  · rw [if_neg hleft, if_neg hright] at h
    exact (String.append_right_inj indent).mp h

end ValueSchema.Text

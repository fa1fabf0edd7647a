/-!
# Lines of a text

A text is cut into lines at its line feeds.  One carriage return before a line feed belongs to the
line ending, a carriage return elsewhere belongs to its line, and a line feed at the very end opens
no further line.  Indentation is put before every line that is not empty.
-/

namespace ValueSchema.Text

/-- Puts a character in front of the first line. -/
def consLine (c : Char) : List (List Char) → List (List Char)
  | [] => [[c]]
  | line :: rest => (c :: line) :: rest

/-- The lines of a text, without their endings. -/
def lines : List Char → List (List Char)
  | [] => []
  | '\n' :: rest => [] :: lines rest
  | '\r' :: '\n' :: rest => [] :: lines rest
  | c :: rest => consLine c (lines rest)

/-- A line with its indentation and its line feed; an empty line gets no indentation. -/
def indentLine (indent line : List Char) : List Char :=
  if line.isEmpty then ['\n'] else indent ++ line ++ ['\n']

/-- Indents every line of a text and ends each with a line feed. -/
def indentLines (indent text : List Char) : List Char :=
  (lines text).flatMap (indentLine indent)

/-- The text made of the given lines, each ended by a line feed. -/
def unlines : List String → String
  | [] => ""
  | line :: rest => line ++ "\n" ++ unlines rest

@[simp] theorem toList_unlines_nil : (unlines []).toList = [] := by
  simp [unlines]

@[simp] theorem toList_unlines_cons (line : String) (rest : List String) :
    (unlines (line :: rest)).toList = line.toList ++ '\n' :: (unlines rest).toList := by
  simp [unlines]

theorem unlines_append (first second : List String) :
    unlines (first ++ second) = unlines first ++ unlines second := by
  induction first with
  | nil => simp [unlines]
  | cons line rest ih => simp [unlines, ih, String.append_assoc]

@[simp] theorem lines_nil : lines [] = [] := rfl

@[simp] theorem lines_newline_cons (rest : List Char) :
    lines ('\n' :: rest) = [] :: lines rest := by
  simp [lines]

@[simp] theorem lines_return_newline_cons (rest : List Char) :
    lines ('\r' :: '\n' :: rest) = [] :: lines rest := by
  simp [lines]

theorem lines_cons_of_ne {c : Char} (rest : List Char) (hn : c ≠ '\n') (hr : c ≠ '\r') :
    lines (c :: rest) = consLine c (lines rest) := by
  rw [lines.eq_def]
  split <;> simp_all

/-- No line holds a line feed. -/
theorem not_mem_newline_of_mem_lines {text line : List Char} (h : line ∈ lines text) :
    '\n' ∉ line := by
  induction text using lines.induct generalizing line with
  | case1 => simp at h
  | case2 rest ih =>
    rw [lines_newline_cons] at h
    rcases List.mem_cons.mp h with h | h
    · simp [h]
    · exact ih h
  | case3 rest ih =>
    rw [lines_return_newline_cons] at h
    rcases List.mem_cons.mp h with h | h
    · simp [h]
    · exact ih h
  | case4 c rest hn hrn ih =>
    have hc : c ≠ '\n' := hn
    rw [lines.eq_4 c rest hn hrn] at h
    cases hl : lines rest with
    | nil =>
      rw [hl] at h
      simp only [consLine, List.mem_singleton] at h
      simp [h, hc.symm]
    | cons first others =>
      rw [hl] at h
      simp only [consLine, List.mem_cons] at h
      rcases h with h | h
      · have : '\n' ∉ first := ih (by simp [hl])
        simp [h, hc.symm, this]
      · exact ih (by simp [hl, h])

end ValueSchema.Text

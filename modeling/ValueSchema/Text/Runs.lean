/-!
# Replacement of characters, run by run

Some characters of a text are replaced and the others stay.  Those that stay are not copied one by
one: a run of them is copied as a slice of the text, from the end of the character that was replaced
last to the beginning of the next.  Slices are cut at byte offsets, and an offset inside a character
or beyond the text would leave no slice to copy.  The main statement, `replaceRuns?_eq_some`, says
that this never happens and that every character becomes what it becomes on its own.
-/

namespace ValueSchema.Text

/-- The slice of a text between two byte offsets, if they are in order and both stand at the
beginning of a character or at the end of the text. -/
def slice? (text : String) (start stop : String.Pos.Raw) : Option String :=
  if h : start.IsValid text ∧ stop.IsValid text ∧ start ≤ stop then
    some (text.extract (text.pos start h.1) (text.pos stop h.2.1))
  else none

/-- The characters with the byte offsets at which they begin, the first at the given offset. -/
def charOffsets (offset : String.Pos.Raw) : List Char → List (String.Pos.Raw × Char)
  | [] => []
  | c :: rest => (offset, c) :: charOffsets (offset + c) rest

/-- The byte offset at which these characters end, at the beginning of a text. -/
def endOffset (chars : List Char) : String.Pos.Raw := (String.ofList chars).rawEndPos

/-- A replacement under way: what is written so far, and the offset at which the run begins that is
still to be copied. -/
structure RunCopy where
  written : String
  pending : String.Pos.Raw

namespace RunCopy

def start : RunCopy := ⟨"", 0⟩

variable (replacement? : Char → Option (List Char)) (text : String)

/-- Copies the pending run and writes the replacement, if the character has one; otherwise the
character joins the run. -/
def step (copy : RunCopy) (entry : String.Pos.Raw × Char) : Option RunCopy :=
  match replacement? entry.2 with
  | none => some copy
  | some replacement =>
    (slice? text copy.pending entry.1).map fun piece =>
      ⟨copy.written ++ piece ++ String.ofList replacement, entry.1 + entry.2⟩

/-- Copies the last run. -/
def finish (copy : RunCopy) : Option String :=
  (slice? text copy.pending text.rawEndPos).map (copy.written ++ ·)

end RunCopy

/-- The text with its characters replaced, or `none` if some slice does not exist. -/
def replaceRuns? (replacement? : Char → Option (List Char)) (text : String) : Option String :=
  ((charOffsets 0 text.toList).foldlM (RunCopy.step replacement? text) RunCopy.start).bind
    (RunCopy.finish text)

/-! ## Slices -/

theorem isSome_slice?_iff {text : String} {start stop : String.Pos.Raw} :
    (slice? text start stop).isSome = true ↔
      start.IsValid text ∧ stop.IsValid text ∧ start ≤ stop := by
  unfold slice?
  split <;> simp [*]

/-- A slice in the middle of a text is what stands there. -/
theorem slice?_append (before piece after : String) :
    slice? (before ++ piece ++ after) before.rawEndPos (before ++ piece).rawEndPos =
      some piece := by
  have hstart : before.rawEndPos.IsValid (before ++ piece ++ after) :=
    String.Pos.Raw.isValid_iff_exists_append.mpr
      ⟨before, piece ++ after, String.append_assoc, rfl⟩
  have hstop : (before ++ piece).rawEndPos.IsValid (before ++ piece ++ after) :=
    String.Pos.Raw.isValid_iff_exists_append.mpr ⟨before ++ piece, after, rfl, rfl⟩
  have hle : before.rawEndPos ≤ (before ++ piece).rawEndPos := by
    simp [String.Pos.Raw.le_iff]
  have hbytes : (before ++ piece ++ after).toByteArray =
      (before ++ piece).toByteArray ++ after.toByteArray := String.toByteArray_append
  have hsize : (before ++ piece).toByteArray.size =
      before.toByteArray.size + piece.toByteArray.size := by simp
  rw [slice?, dif_pos ⟨hstart, hstop, hle⟩, Option.some.injEq, ← String.toByteArray_inj,
    String.toByteArray_extract, String.offset_pos, String.offset_pos, String.byteIdx_rawEndPos,
    String.byteIdx_rawEndPos, ← String.size_toByteArray, ← String.size_toByteArray, hbytes,
    ByteArray.extract_append_size_left, hsize, String.toByteArray_append,
    ByteArray.extract_append_eq_right rfl rfl]

theorem slice?_eq_some {text : String} {before piece after : List Char}
    (h : text.toList = before ++ piece ++ after) :
    slice? text (endOffset before) (endOffset (before ++ piece)) = some (String.ofList piece) := by
  have htext : text = String.ofList before ++ String.ofList piece ++ String.ofList after := by
    apply String.toList_inj.mp
    simpa using h
  rw [htext, endOffset, endOffset, String.ofList_append]
  exact slice?_append _ _ _

theorem endOffset_concat (chars : List Char) (c : Char) :
    endOffset (chars ++ [c]) = endOffset chars + c := by
  simp [endOffset]

/-! ## What a copy has come to -/

/-- What a character becomes. -/
def replaced (replacement? : Char → Option (List Char)) (c : Char) : List Char :=
  (replacement? c).getD [c]

variable {replacement? : Char → Option (List Char)} {text : String} {copy : RunCopy}

/-- The copy has met these characters.  It has written what the first of them become, and the run
of the others, which stay as they are, is pending. -/
def RunCopy.HasMet (replacement? : Char → Option (List Char)) (copy : RunCopy)
    (chars : List Char) : Prop :=
  ∃ done pending, chars = done ++ pending ∧ copy.pending = endOffset done ∧
    copy.written = String.ofList (done.flatMap (replaced replacement?)) ∧
    ∀ c ∈ pending, replacement? c = none

theorem flatMap_replaced_of_eq_none {chars : List Char} (h : ∀ c ∈ chars, replacement? c = none) :
    chars.flatMap (replaced replacement?) = chars := by
  induction chars with
  | nil => rfl
  | cons c rest ih =>
    have hrest := ih fun other hother => h other (List.mem_cons_of_mem c hother)
    rw [List.flatMap_cons, hrest, replaced, h c List.mem_cons_self]
    rfl

namespace RunCopy

theorem hasMet_start : start.HasMet replacement? [] :=
  ⟨[], [], rfl, rfl, rfl, nofun⟩

/-- The pending run can be copied at the end of the characters met, and it completes them. -/
theorem HasMet.exists_slice? {chars after : List Char} (h : copy.HasMet replacement? chars)
    (htext : text.toList = chars ++ after) :
    ∃ piece, slice? text copy.pending (endOffset chars) = some piece ∧
      copy.written ++ piece = String.ofList (chars.flatMap (replaced replacement?)) := by
  obtain ⟨done, pending, rfl, hpending, hwritten, hnone⟩ := h
  refine ⟨String.ofList pending, ?_, ?_⟩
  · rw [hpending]
    exact slice?_eq_some htext
  · rw [hwritten, List.flatMap_append, flatMap_replaced_of_eq_none hnone, String.ofList_append]

/-- One more character. -/
theorem HasMet.step {chars after : List Char} {c : Char} (h : copy.HasMet replacement? chars)
    (htext : text.toList = chars ++ c :: after) :
    ∃ next, copy.step replacement? text (endOffset chars, c) = some next ∧
      next.HasMet replacement? (chars ++ [c]) := by
  cases hc : replacement? c with
  | none =>
    obtain ⟨done, pending, rfl, hpending, hwritten, hnone⟩ := h
    refine ⟨copy, by simp [RunCopy.step, hc], done, pending ++ [c], by simp, hpending, hwritten, ?_⟩
    simpa [or_imp, forall_and, hc] using hnone
  | some replacement =>
    obtain ⟨piece, hpiece, hwritten⟩ := h.exists_slice? htext
    refine ⟨⟨copy.written ++ piece ++ String.ofList replacement, endOffset chars + c⟩, ?_,
      chars ++ [c], [], by simp, (endOffset_concat chars c).symm, ?_, nofun⟩
    · simp only [RunCopy.step, hc, hpiece, Option.map_some]
    · simp [hwritten, replaced, hc]

/-- Several more characters. -/
theorem HasMet.foldlM {chars more after : List Char} (h : copy.HasMet replacement? chars)
    (htext : text.toList = chars ++ more ++ after) :
    ∃ next, (charOffsets (endOffset chars) more).foldlM (RunCopy.step replacement? text) copy =
        some next ∧
      next.HasMet replacement? (chars ++ more) := by
  induction more generalizing chars copy with
  | nil => exact ⟨copy, rfl, by simpa using h⟩
  | cons c rest ih =>
    have hstep : text.toList = chars ++ c :: (rest ++ after) := by simpa using htext
    obtain ⟨next, hnext, hmet⟩ := h.step hstep
    obtain ⟨final, hfinal, hall⟩ := ih hmet (by simpa using htext)
    refine ⟨final, ?_, by simpa using hall⟩
    rw [charOffsets, List.foldlM_cons, hnext, ← endOffset_concat]
    exact hfinal

/-- The copy at some place of the text. -/
theorem exists_hasMet (replacement? : Char → Option (List Char)) {before after : List Char}
    (htext : text.toList = before ++ after) :
    ∃ copy, (charOffsets 0 before).foldlM (RunCopy.step replacement? text) start = some copy ∧
      copy.HasMet replacement? before := by
  have hstart : text.toList = [] ++ before ++ after := htext
  exact hasMet_start.foldlM hstart

end RunCopy

/-- Every slice exists, and each character becomes what it becomes on its own. -/
theorem replaceRuns?_eq_some (replacement? : Char → Option (List Char)) (text : String) :
    replaceRuns? replacement? text =
      some (String.ofList (text.toList.flatMap (replaced replacement?))) := by
  have htext : text.toList = text.toList ++ [] := (List.append_nil text.toList).symm
  obtain ⟨copy, hcopy, hmet⟩ := RunCopy.exists_hasMet replacement? htext
  obtain ⟨piece, hpiece, hwritten⟩ := hmet.exists_slice? htext
  rw [endOffset, String.ofList_toList] at hpiece
  rw [replaceRuns?, hcopy, Option.bind_some, RunCopy.finish, hpiece, Option.map_some, hwritten]

theorem isSome_replaceRuns? (replacement? : Char → Option (List Char)) (text : String) :
    (replaceRuns? replacement? text).isSome = true := by
  rw [replaceRuns?_eq_some]
  rfl

/-- The text with its characters replaced. -/
def replaceRuns (replacement? : Char → Option (List Char)) (text : String) : String :=
  (replaceRuns? replacement? text).get (isSome_replaceRuns? replacement? text)

@[simp] theorem toList_replaceRuns (replacement? : Char → Option (List Char)) (text : String) :
    (replaceRuns replacement? text).toList = text.toList.flatMap (replaced replacement?) := by
  simp [replaceRuns, replaceRuns?_eq_some]

end ValueSchema.Text

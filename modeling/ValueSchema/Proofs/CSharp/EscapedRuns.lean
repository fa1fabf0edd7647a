import ValueSchema.CSharp.Literal

/-!
# Slices of an escaped text

Escaping goes through the characters of a text with their byte offsets and copies the run before
each escape, and the last run, as a slice.  At every place that it passes, the ends of the slice
that would be cut there stand between characters and in order, and with this slice all characters
passed are written, each as it is escaped on its own.
-/

namespace ValueSchema

namespace Text

variable {replacement? : Char → Option (List Char)} {text : String} {copy : RunCopy}

/-! ## Offsets -/

theorem map_snd_charOffsets (offset : String.Pos.Raw) (chars : List Char) :
    (charOffsets offset chars).map Prod.snd = chars := by
  induction chars generalizing offset with
  | nil => rfl
  | cons c rest ih => rw [charOffsets, List.map_cons, ih]

/-- What stands before a character decides its offset. -/
theorem exists_of_charOffsets_eq
    {met chars : List Char} {before after : List (String.Pos.Raw × Char)} {i : String.Pos.Raw}
    {c : Char} (h : charOffsets (endOffset met) chars = before ++ (i, c) :: after) :
    ∃ first rest, chars = first ++ c :: rest ∧ before = charOffsets (endOffset met) first ∧
      i = endOffset (met ++ first) := by
  induction chars generalizing met before with
  | nil => simp [charOffsets] at h
  | cons d rest ih =>
      rw [charOffsets] at h
      cases before with
      | nil =>
          obtain ⟨hentry, -⟩ := List.cons.inj h
          obtain ⟨rfl, rfl⟩ := Prod.mk.inj hentry
          exact ⟨[], rest, rfl, rfl, by rw [List.append_nil]⟩
      | cons entry before =>
          obtain ⟨rfl, htail⟩ := List.cons.inj h
          rw [← endOffset_concat] at htail
          obtain ⟨first, others, rfl, rfl, rfl⟩ := ih htail
          refine ⟨d :: first, others, rfl, ?_, by simp⟩
          rw [charOffsets, endOffset_concat]

/-! ## Slices -/

/-- The pending run can be copied up to an offset, and the text is then written as `output`. -/
structure RunCopy.CanCopy (text : String) (copy : RunCopy) (stop : String.Pos.Raw)
    (output : List Char) : Prop where
  pending_isValid : copy.pending.IsValid text
  stop_isValid : stop.IsValid text
  pending_le_stop : copy.pending ≤ stop
  stop_le_end : stop ≤ text.rawEndPos
  exists_slice? : ∃ piece, slice? text copy.pending stop = some piece ∧
    copy.written ++ piece = String.ofList output

theorem RunCopy.HasMet.canCopy
    {chars after : List Char} (h : copy.HasMet replacement? chars)
    (htext : text.toList = chars ++ after) :
    copy.CanCopy text (endOffset chars) (chars.flatMap (replaced replacement?)) := by
  obtain ⟨piece, hpiece, hwritten⟩ := h.exists_slice? htext
  obtain ⟨hpending, hstop, hle⟩ := isSome_slice?_iff.mp (Option.isSome_of_eq_some hpiece)
  exact ⟨hpending, hstop, hle, hstop.le_rawEndPos, piece, hpiece, hwritten⟩

end Text

namespace CSharp

open Text

/-- Escaping cuts no slice out of order, beyond the text or within a character, and it loses none of
the characters, nor does it escape any of them with regard to the others. -/
theorem escape_copies_runs (text : String) :
    (∀ before i c after, charOffsets 0 text.toList = before ++ (i, c) :: after →
      i = endOffset (before.map Prod.snd) ∧
      ∃ copy, before.foldlM (RunCopy.step escaped? text) .start = some copy ∧
        copy.CanCopy text i ((before.map Prod.snd).flatMap escapeChar)) ∧
    (∃ copy, (charOffsets 0 text.toList).foldlM (RunCopy.step escaped? text) .start = some copy ∧
      copy.CanCopy text text.rawEndPos (text.toList.flatMap escapeChar)) ∧
    replaceRuns? escaped? text = some (escape text) ∧
    escape text = String.ofList (text.toList.flatMap escapeChar) ∧
    ∀ other, escape (text ++ other) = escape text ++ escape other := by
  refine ⟨?_, ?_, ?_, ?_, escape_append text⟩
  · intro before i c after h
    have h : charOffsets (endOffset []) text.toList = before ++ (i, c) :: after := h
    obtain ⟨first, rest, htext, rfl, rfl⟩ := exists_of_charOffsets_eq h
    obtain ⟨copy, hcopy, hmet⟩ := RunCopy.exists_hasMet escaped? htext
    rw [map_snd_charOffsets]
    exact ⟨rfl, copy, hcopy, hmet.canCopy htext⟩
  · have htext : text.toList = text.toList ++ [] := (List.append_nil text.toList).symm
    obtain ⟨copy, hcopy, hmet⟩ := RunCopy.exists_hasMet escaped? htext
    refine ⟨copy, hcopy, ?_⟩
    have hcan := hmet.canCopy htext
    rwa [endOffset, String.ofList_toList] at hcan
  · exact (Option.some_get (isSome_replaceRuns? escaped? text)).symm
  · apply String.toList_inj.mp
    rw [toList_escape, String.toList_ofList]

/-- Characters of two and of three bytes are escaped here, and others of the same width are copied
with their runs. -/
theorem escape_copies_runs_of_wide_characters :
    let text := "né\u0085日\"\u2028𝄞"
    let before : List (String.Pos.Raw × Char) :=
      [(⟨0⟩, 'n'), (⟨1⟩, 'é'), (⟨3⟩, '\u0085'), (⟨5⟩, '日'), (⟨8⟩, '"')]
    charOffsets 0 text.toList = before ++ (⟨9⟩, '\u2028') :: [(⟨12⟩, '𝄞')] ∧
      (∃ copy, before.foldlM (RunCopy.step escaped? text) .start = some copy ∧
        copy.CanCopy text ⟨9⟩ "né\\u0085日\\\"".toList) ∧
      escape text = "né\\u0085日\\\"\\u2028𝄞" := by
  intro text before
  have hplace : charOffsets 0 text.toList = before ++ (⟨9⟩, '\u2028') :: [(⟨12⟩, '𝄞')] := by
    decide
  have hchars : text.toList.flatMap escapeChar = "né\\u0085日\\\"\\u2028𝄞".toList := by decide
  obtain ⟨hplaces, -, -, hescape, -⟩ := escape_copies_runs text
  obtain ⟨-, copy, hcopy, hcan⟩ := hplaces before ⟨9⟩ '\u2028' [(⟨12⟩, '𝄞')] hplace
  rw [hchars, String.ofList_toList] at hescape
  exact ⟨hplace, ⟨copy, hcopy, hcan⟩, hescape⟩

end CSharp

end ValueSchema

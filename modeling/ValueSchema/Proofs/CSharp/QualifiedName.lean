import ValueSchema.CSharp.Name

/-!
# Characters of qualified names

A qualified name is made of dots, at signs and the characters that may continue an identifier, so
no character that means something to a reader of C# source can stand in it.
-/

namespace ValueSchema.CSharp

def isNameCharacter (c : Char) : Bool := c = '.' || c = '@' || isIdentifierPart c

theorem exists_mem_segments
    {text : List Char} {c : Char} (hc : c ∈ text) (hdot : c ≠ '.') :
    ∃ segment ∈ segments text, c ∈ segment := by
  induction text with
  | nil => cases hc
  | cons d rest ih =>
      by_cases hd : d = '.'
      · subst hd
        have hrest : c ∈ rest := (List.mem_cons.mp hc).resolve_left hdot
        obtain ⟨segment, hsegment, hmem⟩ := ih hrest
        rw [segments_dot_cons]
        exact ⟨segment, List.mem_cons_of_mem _ hsegment, hmem⟩
      · cases hsegments : segments rest with
        | nil => exact absurd hsegments (segments_ne_nil rest)
        | cons first others =>
            have hcons : segments (d :: rest) = (d :: first) :: others := by
              simp [segments, hd, hsegments]
            rw [hcons]
            rcases List.mem_cons.mp hc with rfl | hrest
            · exact ⟨_, List.mem_cons_self, List.mem_cons_self⟩
            · obtain ⟨segment, hsegment, hmem⟩ := ih hrest
              rw [hsegments] at hsegment
              rcases List.mem_cons.mp hsegment with rfl | hother
              · exact ⟨_, List.mem_cons_self, List.mem_cons_of_mem _ hmem⟩
              · exact ⟨segment, List.mem_cons_of_mem _ hother, hmem⟩

theorem isIdentifierPart_of_mem_plainIdentifier
    {text : List Char} (h : isPlainIdentifier text = true) {c : Char} (hc : c ∈ text) :
    isIdentifierPart c = true := by
  cases text with
  | nil => cases hc
  | cons first rest =>
      rw [isPlainIdentifier, Bool.and_eq_true, List.all_eq_true] at h
      rcases List.mem_cons.mp hc with rfl | hrest
      · exact isIdentifierPart_of_start h.1
      · exact h.2 c hrest

theorem isNameCharacter_of_mem_identifierText
    {text : List Char} (h : isIdentifierText text = true) {c : Char} (hc : c ∈ text) :
    isNameCharacter c = true := by
  unfold isIdentifierText at h
  split at h
  · rcases List.mem_cons.mp hc with rfl | hrest
    · rfl
    · simp [isNameCharacter, isIdentifierPart_of_mem_plainIdentifier h hrest]
  · simp [isNameCharacter, isIdentifierPart_of_mem_plainIdentifier h hc]

theorem isNameCharacter_of_mem_qualifiedName
    {name : String} (h : isQualifiedName name = true) {c : Char} (hc : c ∈ name.toList) :
    isNameCharacter c = true := by
  by_cases hdot : c = '.'
  · subst hdot
    rfl
  · obtain ⟨segment, hsegment, hmem⟩ := exists_mem_segments hc hdot
    exact isNameCharacter_of_mem_identifierText (List.all_eq_true.mp h segment hsegment) hmem

end ValueSchema.CSharp

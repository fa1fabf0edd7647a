import ValueSchema.CSharp.Literal
import ValueSchema.Proofs.CSharp.QualifiedName
import ValueSchema.Proofs.Text.Lines
import ValueSchema.Proofs.Unicode.RangeTable
import ValueSchema.Unicode.Blank

/-!
# The grammar of qualified names

Which texts are qualified names, without a procedure that takes them apart.  A qualified name is
composed of identifiers joined by dots.  Since no identifier holds a dot, a name is composed in one
way only, and two names joined by a dot are a name.

The characters of names are kept apart from white space and from control characters by their tables:
no range of the one has a code point of the other.
-/

namespace ValueSchema

namespace CSharp

/-! ## The grammar -/

/-- A character that an identifier may begin with. -/
def StartsIdentifier (c : Char) : Prop := c = '_' ∨ Unicode.isAlphabetic c = true

/-- A character that an identifier may go on with: besides those of its beginning, a number of
category Nd, Nl or No. -/
def ContinuesIdentifier (c : Char) : Prop :=
  c = '_' ∨ Unicode.isAlphabetic c = true ∨ Unicode.isDecimalDigit c = true ∨
    Unicode.isLetterNumber c = true ∨ Unicode.isOtherNumber c = true

/-- The text is an identifier, with or without an at sign. -/
inductive SpellsIdentifier : List Char → Prop where
  | plain {first : Char} {rest : List Char} (hfirst : StartsIdentifier first)
      (hrest : ∀ c ∈ rest, ContinuesIdentifier c) :
      SpellsIdentifier (first :: rest)
  | verbatim {first : Char} {rest : List Char} (hfirst : StartsIdentifier first)
      (hrest : ∀ c ∈ rest, ContinuesIdentifier c) :
      SpellsIdentifier ('@' :: first :: rest)

/-- The name is composed of identifiers, at least one, joined by dots. -/
structure Composes (identifiers : List String) (name : String) : Prop where
  nonempty : identifiers ≠ []
  spells : ∀ identifier ∈ identifiers, SpellsIdentifier identifier.toList
  join : ".".intercalate identifiers = name

/-! ## Identifiers -/

theorem isIdentifierStart_iff {c : Char} : isIdentifierStart c = true ↔ StartsIdentifier c := by
  simp [isIdentifierStart, StartsIdentifier]

theorem isIdentifierPart_iff {c : Char} : isIdentifierPart c = true ↔ ContinuesIdentifier c := by
  simp [isIdentifierPart, ContinuesIdentifier, Unicode.isAlphanumeric, Unicode.isNumeric, or_assoc]

theorem isPlainIdentifier_cons_iff {first : Char} {rest : List Char} :
    isPlainIdentifier (first :: rest) = true ↔
      StartsIdentifier first ∧ ∀ c ∈ rest, ContinuesIdentifier c := by
  rw [isPlainIdentifier, Bool.and_eq_true, isIdentifierStart_iff, List.all_eq_true]
  simp only [isIdentifierPart_iff]

theorem not_startsIdentifier_at : ¬ StartsIdentifier '@' := by
  rw [← isIdentifierStart_iff]
  decide +kernel

theorem isIdentifierText_cons_of_ne {first : Char} (h : first ≠ '@') (rest : List Char) :
    isIdentifierText (first :: rest) = isPlainIdentifier (first :: rest) := by
  unfold isIdentifierText
  split
  · next heq => exact absurd (List.cons.inj heq).1 h
  · rfl

theorem isIdentifierText_iff {text : List Char} :
    isIdentifierText text = true ↔ SpellsIdentifier text := by
  constructor
  · intro h
    cases text with
    | nil => cases h
    | cons first rest =>
        by_cases hat : first = '@'
        · subst hat
          cases rest with
          | nil => cases h
          | cons first rest =>
              obtain ⟨hfirst, hrest⟩ := isPlainIdentifier_cons_iff.mp h
              exact .verbatim hfirst hrest
        · rw [isIdentifierText_cons_of_ne hat] at h
          obtain ⟨hfirst, hrest⟩ := isPlainIdentifier_cons_iff.mp h
          exact .plain hfirst hrest
  · intro h
    cases h with
    | plain hfirst hrest =>
        rw [isIdentifierText_cons_of_ne, isPlainIdentifier_cons_iff]
        · exact ⟨hfirst, hrest⟩
        · rintro rfl
          exact not_startsIdentifier_at hfirst
    | verbatim hfirst hrest => exact isPlainIdentifier_cons_iff.mpr ⟨hfirst, hrest⟩

/-! ## Segments -/

/-- The segments of a text are its pieces between dots. -/
theorem segments_eq_splitOn (text : List Char) : segments text = text.splitOn '.' := by
  induction text with
  | nil => rfl
  | cons c rest ih =>
      rw [List.splitOn_cons_eq_if_modifyHead, segments, ih]
      by_cases hc : c = '.'
      · simp [hc]
      · cases hsplit : rest.splitOn '.' with
        | nil => exact absurd hsplit (List.splitOn_ne_nil '.' rest)
        | cons first others => simp [hc]

theorem isQualifiedName_iff_splitOn {name : String} :
    isQualifiedName name = true ↔
      ∀ segment ∈ name.toList.splitOn '.', SpellsIdentifier segment := by
  rw [isQualifiedName, isQualifiedText, segments_eq_splitOn, List.all_eq_true]
  simp only [isIdentifierText_iff]

theorem eq_at_or_isIdentifierPart
    {text : List Char} (h : SpellsIdentifier text) {c : Char} (hc : c ∈ text) :
    c = '@' ∨ isIdentifierPart c = true := by
  have hplain {first : Char} {rest : List Char} (hfirst : StartsIdentifier first)
      (hrest : ∀ c ∈ rest, ContinuesIdentifier c) (hmem : c ∈ first :: rest) :
      isIdentifierPart c = true := by
    rcases List.mem_cons.mp hmem with rfl | hmem
    · exact isIdentifierPart_of_start (isIdentifierStart_iff.mpr hfirst)
    · exact isIdentifierPart_iff.mpr (hrest c hmem)
  cases h with
  | plain hfirst hrest => exact .inr (hplain hfirst hrest hc)
  | verbatim hfirst hrest => exact (List.mem_cons.mp hc).imp_right (hplain hfirst hrest)

theorem dot_not_mem_of_spellsIdentifier {text : List Char} (h : SpellsIdentifier text) :
    '.' ∉ text := by
  have hdot : ¬ ('.' = '@' ∨ isIdentifierPart '.' = true) := by decide +kernel
  exact fun hmem => hdot (eq_at_or_isIdentifierPart h hmem)

theorem Composes.splitOn_eq {identifiers : List String} {name : String}
    (h : Composes identifiers name) :
    name.toList.splitOn '.' = identifiers.map String.toList := by
  have hdots : ∀ text ∈ identifiers.map String.toList, '.' ∉ text := by
    intro text htext
    obtain ⟨identifier, hmem, rfl⟩ := List.mem_map.mp htext
    exact dot_not_mem_of_spellsIdentifier (h.spells identifier hmem)
  have hnonempty : identifiers.map String.toList ≠ [] :=
    fun hnil => h.nonempty (List.map_eq_nil_iff.mp hnil)
  rw [← h.join, String.toList_intercalate]
  exact List.splitOn_intercalate '.' hdots hnonempty

theorem Composes.unique
    {identifiers others : List String} {name : String}
    (h : Composes identifiers name) (hothers : Composes others name) :
    identifiers = others := by
  have hpieces := h.splitOn_eq.symm.trans hothers.splitOn_eq
  exact (List.map_inj_right fun _ _ => String.toList_inj.mp).mp hpieces

theorem isQualifiedName_iff_exists_composes {name : String} :
    isQualifiedName name = true ↔ ∃ identifiers, Composes identifiers name := by
  rw [isQualifiedName_iff_splitOn]
  constructor
  · intro h
    refine ⟨(name.toList.splitOn '.').map String.ofList, ?_, ?_, ?_⟩
    · rw [Ne, List.map_eq_nil_iff]
      exact List.splitOn_ne_nil '.' name.toList
    · intro identifier hidentifier
      obtain ⟨segment, hsegment, rfl⟩ := List.mem_map.mp hidentifier
      rw [String.toList_ofList]
      exact h segment hsegment
    · apply String.toList_inj.mp
      rw [String.toList_intercalate, Text.map_toList_map_ofList]
      exact List.intercalate_splitOn '.'
  · rintro ⟨identifiers, h⟩ segment hsegment
    rw [h.splitOn_eq] at hsegment
    obtain ⟨identifier, hmem, rfl⟩ := List.mem_map.mp hsegment
    exact h.spells identifier hmem

theorem isQualifiedName_dot {left right : String} :
    isQualifiedName (left ++ "." ++ right) = true ↔
      isQualifiedName left = true ∧ isQualifiedName right = true := by
  have hsplit : (left ++ "." ++ right).toList.splitOn '.' =
      left.toList.splitOn '.' ++ right.toList.splitOn '.' := by
    rw [String.toList_append, String.toList_append, List.append_assoc]
    exact List.splitOn_append_cons_self left.toList right.toList
  rw [isQualifiedName_iff_splitOn, isQualifiedName_iff_splitOn, isQualifiedName_iff_splitOn, hsplit]
  exact List.forall_mem_append

/-! ## Characters -/

def nameTable : Unicode.RangeTable :=
  [(0x2E, 0x2E), (0x40, 0x40), (0x5F, 0x5F)] ++ Unicode.letters ++ Unicode.letterNumbers ++
    Unicode.alphabeticMarks ++ Unicode.alphabeticSymbols ++ Unicode.decimalDigits ++
    Unicode.otherNumbers

/-- General category Cc. -/
def controlTable : Unicode.RangeTable := [(0x00, 0x1F), (0x7F, 0x9F)]

def punctuation : List Char := ['"', '\'', '\x7b', '\x7d', '/', '\\', ':']

theorem contains_nameTable {c : Char} (h : isNameCharacter c = true) :
    nameTable.contains c = true := by
  have hmarks (hc : c = '.' ∨ c = '@' ∨ c = '_') :
      Unicode.RangeTable.contains [(0x2E, 0x2E), (0x40, 0x40), (0x5F, 0x5F)] c = true := by
    rcases hc with rfl | rfl | rfl <;> rfl
  simp only [isNameCharacter, isIdentifierPart, Unicode.isAlphanumeric, Unicode.isAlphabetic,
    Unicode.isLetter, Unicode.isLetterNumber, Unicode.isAlphabeticMark, Unicode.isAlphabeticSymbol,
    Unicode.isNumeric, Unicode.isDecimalDigit, Unicode.isOtherNumber, Bool.or_eq_true,
    decide_eq_true_eq] at h
  simp only [nameTable, Unicode.RangeTable.contains_append, Bool.or_eq_true]
  grind

theorem contains_controlTable {c : Char} (h : isControl c = true) :
    controlTable.contains c = true := by
  simp only [isControl, Bool.or_eq_true, Bool.and_eq_true, decide_eq_true_eq] at h
  rw [Unicode.RangeTable.contains_iff]
  rcases h with h | h
  · exact ⟨(0x00, 0x1F), by simp [controlTable], Nat.zero_le _, Nat.le_of_lt_succ h⟩
  · exact ⟨(0x7F, 0x9F), by simp [controlTable], h⟩

/-- No character of a name is white space, a control character or punctuation. -/
theorem isNameCharacter_apart {c : Char} (h : isNameCharacter c = true) :
    Unicode.isWhiteSpace c = false ∧ isControl c = false ∧ c ∉ punctuation := by
  have hname := contains_nameTable h
  have hspace : nameTable.Apart Unicode.whiteSpace := by decide +kernel
  have hcontrol : nameTable.Apart controlTable := by decide +kernel
  refine ⟨hspace.contains_eq_false hname, eq_false_of_ne_true fun hc => ?_, fun hmem => ?_⟩
  · have hapart := hcontrol.contains_eq_false hname
    rw [contains_controlTable hc] at hapart
    cases hapart
  · have hnone : (punctuation.all fun mark => !isNameCharacter mark) = true := by decide +kernel
    have hmark := List.all_eq_true.mp hnone c hmem
    rw [h] at hmark
    cases hmark

/-! ## Qualified names -/

/-- The qualified names are the texts composed of identifiers, and each is composed in one way.  Two
texts joined by a dot are a name just when both are.  No character of a name is white space, a
control character or punctuation. -/
theorem isQualifiedName_grammar :
    (∀ name, isQualifiedName name = true ↔ ∃ identifiers, Composes identifiers name) ∧
      (∀ name identifiers others, Composes identifiers name → Composes others name →
        identifiers = others) ∧
      (∀ left right, isQualifiedName (left ++ "." ++ right) = true ↔
        isQualifiedName left = true ∧ isQualifiedName right = true) ∧
      ∀ name, isQualifiedName name = true → ∀ c ∈ name.toList,
        Unicode.isWhiteSpace c = false ∧ isControl c = false ∧ c ∉ punctuation := by
  refine ⟨fun _ => isQualifiedName_iff_exists_composes, fun _ _ _ => Composes.unique,
    fun _ _ => isQualifiedName_dot, fun name hname c hc => ?_⟩
  exact isNameCharacter_apart (isNameCharacter_of_mem_qualifiedName hname hc)

/-- A verbatim identifier, and one that ends in a number of category No. -/
theorem isQualifiedName_grammar_of_verbatim :
    Composes ["@App", "Größe²"] "@App.Größe²" ∧
      (∀ others, Composes others "@App.Größe²" → others = ["@App", "Größe²"]) ∧
      isQualifiedName ("@App" ++ "." ++ "Größe²") = true ∧
      isQualifiedName "@App" = true ∧ isQualifiedName "Größe²" = true ∧
      ∀ c ∈ "@App.Größe²".toList,
        Unicode.isWhiteSpace c = false ∧ isControl c = false ∧ c ∉ punctuation := by
  have hspells : ∀ identifier ∈ ["@App", "Größe²"], SpellsIdentifier identifier.toList := by
    simp only [← isIdentifierText_iff]
    decide +kernel
  have hcomposed : Composes ["@App", "Größe²"] "@App.Größe²" := ⟨by decide, hspells, by decide⟩
  obtain ⟨hgrammar, hunique, hdot, hcharacters⟩ := isQualifiedName_grammar
  have hname := (hgrammar _).mpr ⟨_, hcomposed⟩
  obtain ⟨hleft, hright⟩ := (hdot "@App" "Größe²").mp hname
  exact ⟨hcomposed, fun others hothers => hunique _ others _ hothers hcomposed, hname, hleft,
    hright, hcharacters _ hname⟩

end CSharp

end ValueSchema

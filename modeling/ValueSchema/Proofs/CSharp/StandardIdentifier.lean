import ValueSchema.Configuration.Document
import ValueSchema.Proofs.CSharp.NameGrammar
import ValueSchema.Unicode.Continuation

/-!
# Identifiers of the C# standard

The standard builds identifiers from general categories, while names are checked by the Alphabetic
property and by all three categories of numbers.  The check is wider in three ways: a name may begin
with an alphabetic mark, and it may hold enclosed letters, which are symbols, and numbers that are
no digits.  A name that is accepted is an identifier of the standard just when it makes use of none
of the three.
-/

namespace ValueSchema.CSharp

/-! ## The grammar of the standard -/

/-- A character that the standard lets an identifier begin with: an underscore, or one of category
Lu, Ll, Lt, Lm, Lo or Nl. -/
def MayStart (c : Char) : Prop :=
  c = '_' ∨ Unicode.isLetter c = true ∨ Unicode.isLetterNumber c = true

/-- A character that the standard lets an identifier go on with: one of category Lu, Ll, Lt, Lm, Lo,
Nl, Nd, Pc, Mn, Mc or Cf. -/
def MayContinue (c : Char) : Prop :=
  Unicode.isLetter c = true ∨ Unicode.isLetterNumber c = true ∨ Unicode.isDecimalDigit c = true ∨
    Unicode.isConnector c = true ∨ Unicode.isCombiningMark c = true ∨ Unicode.isFormat c = true

/-- A text without the at sign before it, if there is one. -/
def withoutAt : List Char → List Char
  | [] => []
  | first :: rest => if first = '@' then rest else first :: rest

/-- The name is an identifier of the standard at the level of characters. -/
def IsStandardIdentifier (name : String) : Prop :=
  ∃ first rest, withoutAt name.toList = first :: rest ∧ MayStart first ∧
    ∀ c ∈ rest, MayContinue c

/-! ## What is accepted beyond it -/

/-- The name begins with a mark or a symbol, or goes on with a symbol or a number that is no
digit. -/
def Strays (name : String) : Prop :=
  ∃ first rest, withoutAt name.toList = first :: rest ∧
    ((Unicode.isAlphabeticMark first = true ∨ Unicode.isAlphabeticSymbol first = true) ∨
      ∃ c ∈ rest, Unicode.isAlphabeticSymbol c = true ∨ Unicode.isOtherNumber c = true)

def startTables : List Unicode.RangeTable :=
  [[(0x5F, 0x5F)], Unicode.letters, Unicode.letterNumbers]

def continuationTables : List Unicode.RangeTable :=
  [Unicode.letters, Unicode.letterNumbers, Unicode.decimalDigits, Unicode.connectors,
    Unicode.combiningMarks, Unicode.formats]

theorem exists_mem_startTables {c : Char} (h : MayStart c) :
    ∃ table ∈ startTables, table.contains c = true := by
  rcases h with rfl | h | h
  · exact ⟨[(0x5F, 0x5F)], by simp [startTables], rfl⟩
  · exact ⟨_, by simp [startTables], h⟩
  · exact ⟨_, by simp [startTables], h⟩

theorem exists_mem_continuationTables {c : Char} (h : MayContinue c) :
    ∃ table ∈ continuationTables, table.contains c = true := by
  rcases h with h | h | h | h | h | h <;> exact ⟨_, by simp [continuationTables], h⟩

theorem not_mayStart {c : Char}
    (h : Unicode.isAlphabeticMark c = true ∨ Unicode.isAlphabeticSymbol c = true) :
    ¬ MayStart c := by
  have hapart : Unicode.RangeTable.allApart
      [Unicode.alphabeticMarks, Unicode.alphabeticSymbols] startTables = true := by
    decide +kernel
  refine fun hstart => Unicode.RangeTable.not_exists_contains_of_allApart hapart ?_
    (exists_mem_startTables hstart)
  exact h.elim (fun h => ⟨_, by simp, h⟩) (fun h => ⟨_, by simp, h⟩)

theorem not_mayContinue {c : Char}
    (h : Unicode.isAlphabeticSymbol c = true ∨ Unicode.isOtherNumber c = true) :
    ¬ MayContinue c := by
  have hapart : Unicode.RangeTable.allApart
      [Unicode.alphabeticSymbols, Unicode.otherNumbers] continuationTables = true := by
    decide +kernel
  refine fun hcontinue => Unicode.RangeTable.not_exists_contains_of_allApart hapart ?_
    (exists_mem_continuationTables hcontinue)
  exact h.elim (fun h => ⟨_, by simp, h⟩) (fun h => ⟨_, by simp, h⟩)

theorem isCombiningMark_of_isAlphabeticMark
    {c : Char} (h : Unicode.isAlphabeticMark c = true) :
    Unicode.isCombiningMark c = true := by
  have hwithin : Unicode.RangeTable.sweepsWithin Unicode.alphabeticMarks Unicode.combiningMarks =
      true := by
    decide +kernel
  exact (Unicode.RangeTable.within_of_sweepsWithin hwithin).contains h

/-- A character that is accepted at the beginning may start an identifier of the standard unless it
is a mark or a symbol. -/
theorem mayStart_iff {c : Char} (h : StartsIdentifier c) :
    MayStart c ↔
      ¬ (Unicode.isAlphabeticMark c = true ∨ Unicode.isAlphabeticSymbol c = true) := by
  refine ⟨fun hstart hstray => not_mayStart hstray hstart, fun hstray => ?_⟩
  rw [not_or] at hstray
  simpa [StartsIdentifier, MayStart, Unicode.isAlphabetic, hstray.1, hstray.2] using h

/-- A character that is accepted further on may continue an identifier of the standard unless it is
a symbol or a number that is no digit. -/
theorem mayContinue_iff {c : Char} (h : ContinuesIdentifier c) :
    MayContinue c ↔
      ¬ (Unicode.isAlphabeticSymbol c = true ∨ Unicode.isOtherNumber c = true) := by
  refine ⟨fun hcontinue hstray => not_mayContinue hstray hcontinue, fun hstray => ?_⟩
  rw [not_or] at hstray
  rcases h with rfl | halphabetic | hdigit | hletter | hnumber
  · exact .inr (.inr (.inr (.inl rfl)))
  · simp only [Unicode.isAlphabetic, Bool.or_eq_true] at halphabetic
    rcases halphabetic with ((hletter | hletter) | hmark) | hsymbol
    · exact .inl hletter
    · exact .inr (.inl hletter)
    · exact .inr (.inr (.inr (.inr (.inl (isCombiningMark_of_isAlphabeticMark hmark)))))
    · exact absurd hsymbol hstray.1
  · exact .inr (.inr (.inl hdigit))
  · exact .inr (.inl hletter)
  · exact absurd hnumber hstray.2

/-! ## Identifiers and namespaces -/

variable {name : String}

theorem isIdentifierText_eq (text : List Char) :
    isIdentifierText text = isPlainIdentifier (withoutAt text) := by
  cases text with
  | nil => rfl
  | cons first rest =>
      by_cases hat : first = '@'
      · subst hat
        rfl
      · rw [isIdentifierText_cons_of_ne hat, withoutAt, if_neg hat]

/-- What is accepted begins and goes on as the check asks, after an optional at sign. -/
theorem exists_withoutAt_eq (h : isIdentifier name = true) :
    ∃ first rest, withoutAt name.toList = first :: rest ∧ StartsIdentifier first ∧
      ∀ c ∈ rest, ContinuesIdentifier c := by
  rw [isIdentifier, isIdentifierText_eq] at h
  cases htext : withoutAt name.toList with
  | nil =>
      rw [htext] at h
      cases h
  | cons first rest =>
      rw [htext, isPlainIdentifier_cons_iff] at h
      exact ⟨first, rest, rfl, h⟩

theorem isStandardIdentifier_iff (h : isIdentifier name = true) :
    IsStandardIdentifier name ↔ ¬ Strays name := by
  obtain ⟨first, rest, htext, hfirst, hrest⟩ := exists_withoutAt_eq h
  have hparts {P : Char → List Char → Prop} :
      (∃ first rest, withoutAt name.toList = first :: rest ∧ P first rest) ↔ P first rest := by
    refine ⟨?_, fun hP => ⟨first, rest, htext, hP⟩⟩
    rintro ⟨other, others, hother, hP⟩
    cases htext.symm.trans hother
    exact hP
  have hstandard : IsStandardIdentifier name ↔ MayStart first ∧ ∀ c ∈ rest, MayContinue c :=
    hparts
  have hstrays : Strays name ↔
      (Unicode.isAlphabeticMark first = true ∨ Unicode.isAlphabeticSymbol first = true) ∨
        ∃ c ∈ rest, Unicode.isAlphabeticSymbol c = true ∨ Unicode.isOtherNumber c = true :=
    hparts
  have hcontinue : (∀ c ∈ rest, MayContinue c) ↔
      ¬ ∃ c ∈ rest, Unicode.isAlphabeticSymbol c = true ∨ Unicode.isOtherNumber c = true := by
    rw [not_exists]
    refine forall_congr' fun c => ?_
    rw [not_and]
    exact forall_congr' fun hc => mayContinue_iff (hrest c hc)
  rw [hstandard, hstrays, not_or, mayStart_iff hfirst, hcontinue]

/-- The configuration is one that has been validated, loaded, or given a namespace. -/
inductive IsAccepted (c : Configuration) : Prop where
  | validated (h : c.validated = .ok c)
  | loaded {document : String} (h : Configuration.ofToml document = .ok c)
  | named {start : Configuration} {text : String} (h : start.withNamespace text = .ok c)

theorem IsAccepted.isValid {c : Configuration} (h : IsAccepted c) : c.IsValid := by
  cases h with
  | validated h => exact (Configuration.validated_eq_ok_iff.mp h).1
  | loaded h => exact Configuration.isValid_of_load h
  | named h =>
      obtain ⟨hvalid, rfl⟩ := Configuration.validated_eq_ok_iff.mp h
      exact hvalid

/-- An accepted identifier is one of the standard just when it does not stray, and an accepted
namespace is composed of identifiers of the standard just when none of its identifiers strays. -/
theorem accepted_names_are_standard_iff (text : String) :
    (isIdentifier text = true → (IsStandardIdentifier text ↔ ¬ Strays text)) ∧
    ∀ c : Configuration, IsAccepted c → c.enclosingNamespace = some text →
      ∃ identifiers, Composes identifiers text ∧
        ((∀ identifier ∈ identifiers, IsStandardIdentifier identifier) ↔
          ∀ identifier ∈ identifiers, ¬ Strays identifier) := by
  refine ⟨isStandardIdentifier_iff, fun c hc htext => ?_⟩
  have hname := (Configuration.isValid_iff.mp hc.isValid).1 text htext
  obtain ⟨identifiers, hcomposed⟩ := isQualifiedName_iff_exists_composes.mp hname
  refine ⟨identifiers, hcomposed, forall₂_congr fun identifier hmem => ?_⟩
  exact isStandardIdentifier_iff (isIdentifierText_iff.mpr (hcomposed.spells identifier hmem))

/-- A verbatim identifier of the standard, and one that strays by a superscript. -/
theorem accepted_names_are_standard_iff_of_superscript :
    isIdentifier "@Größe2" = true ∧ IsStandardIdentifier "@Größe2" ∧
      isIdentifier "Größe²" = true ∧ ¬ IsStandardIdentifier "Größe²" := by
  have hstandard : isIdentifier "@Größe2" = true := by decide +kernel
  have hsuperscript : isIdentifier "Größe²" = true := by decide +kernel
  have hstrays : Strays "Größe²" :=
    ⟨'G', ['r', 'ö', 'ß', 'e', '²'], rfl, .inr ⟨'²', by simp, .inr (by decide +kernel)⟩⟩
  refine ⟨hstandard, ((accepted_names_are_standard_iff _).1 hstandard).mpr ?_, hsuperscript,
    fun h => ((accepted_names_are_standard_iff _).1 hsuperscript).mp h hstrays⟩
  rintro ⟨first, rest, htext, hstray⟩
  have hcharacters : withoutAt "@Größe2".toList = ['G', 'r', 'ö', 'ß', 'e', '2'] := rfl
  obtain ⟨rfl, rfl⟩ := List.cons.inj (hcharacters.symm.trans htext)
  have hfirst : Unicode.isAlphabeticMark 'G' = false ∧ Unicode.isAlphabeticSymbol 'G' = false := by
    decide +kernel
  have hrest : (['r', 'ö', 'ß', 'e', '2'].all fun c =>
      !Unicode.isAlphabeticSymbol c && !Unicode.isOtherNumber c) = true := by
    decide +kernel
  rcases hstray with hstray | ⟨c, hc, hstray⟩
  · simp [hfirst] at hstray
  · have hnone := List.all_eq_true.mp hrest c hc
    simp only [Bool.and_eq_true, Bool.not_eq_true'] at hnone
    simp [hnone] at hstray

/-- An enclosed letter is accepted as an identifier and as a namespace, and the standard admits it
nowhere in an identifier. -/
theorem enclosed_letter_is_not_standard :
    isIdentifier "Ⓐ" = true ∧ ¬ IsStandardIdentifier "Ⓐ" ∧
      ∃ c : Configuration, IsAccepted c ∧ c.enclosingNamespace = some "Ⓐ" ∧
        ¬ ∃ identifiers, Composes identifiers "Ⓐ" ∧
          ∀ identifier ∈ identifiers, IsStandardIdentifier identifier := by
  have haccepted : isIdentifier "Ⓐ" = true := by decide +kernel
  have hstrays : Strays "Ⓐ" := ⟨'Ⓐ', [], rfl, .inl (.inr (by decide +kernel))⟩
  have hnot : ¬ IsStandardIdentifier "Ⓐ" :=
    fun h => (isStandardIdentifier_iff haccepted).mp h hstrays
  have hnamed : (default : Configuration).withNamespace "Ⓐ" =
      .ok { enclosingNamespace := some "Ⓐ" } := by
    decide +kernel
  refine ⟨haccepted, hnot, _, .named hnamed, rfl, ?_⟩
  rintro ⟨identifiers, hcomposed, hstandard⟩
  have halone : Composes ["Ⓐ"] "Ⓐ" :=
    ⟨by decide, by simpa using isIdentifierText_iff.mp haccepted, by decide⟩
  rw [hcomposed.unique halone] at hstandard
  exact hnot (hstandard "Ⓐ" (by simp))

end ValueSchema.CSharp

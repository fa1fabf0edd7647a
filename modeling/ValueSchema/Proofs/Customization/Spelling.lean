import Mathlib.Data.List.Forall2
import ValueSchema.Customization
import ValueSchema.Proofs.Text.Numeral
import ValueSchema.Proofs.Unicode.Blank

/-!
# What a customization can be written as

A text denotes a customization by a numeral of its flag or by one of its words, with white space
around it.  In a word the case of letters does not count, nor do separators.  The two readings do
not get into each other's way: a numeral has a digit, and no word has one.

The main lemmas are `ofSpelling?_eq_some_iff` for words, `parse_of_isNumeral` for numerals and
`parse_of_not_isNumeral` for all other texts.
-/

namespace ValueSchema.Customization

open Unicode

/-! ## What is denoted -/

def words : Customization → List String
  | disabled => ["omit", "none", "disabled"]
  | schemaFilter => [schemaFilter.name]
  | mappingExtension => [mappingExtension.name]

/-- The character stands for an ASCII letter: it is the letter in either case, or the Kelvin sign
for a `k`. -/
def MatchesLetter (letter c : Char) : Prop :=
  c.toLower = letter.toLower ∨ c = '\u212A' ∧ letter.toLower = 'k'

/-- The text without its separators matches a word for the customization letter by letter. -/
def Names (text : List Char) (choice : Customization) : Prop :=
  ∃ word ∈ choice.words,
    List.Forall₂ MatchesLetter word.toList (text.filter fun c => c ≠ '_' ∧ c ≠ '-')

/-- The text, without the white space around it, is a numeral of the flag of the customization or
names the customization. -/
inductive Denotes (text : String) (choice : Customization) : Prop where
  | flag {core : List Char} (hcore : IsCore core text.toList)
      (hflag : Text.IsNumeral core choice.flag)
  | name {core : List Char} (hcore : IsCore core text.toList) (hname : Names core choice)

/-! ## Letters -/

/-- What holds of the code points of ASCII one by one holds of its characters. -/
theorem forall_ascii {p : Char → Prop} (h : ∀ n < 128, p (Char.ofNat n)) :
    ∀ c : Char, c.toNat < 128 → p c :=
  fun c hc => Char.ofNat_toNat c ▸ h c.toNat hc

theorem toNat_lt_of_isAlphanum {c : Char} (h : c.isAlphanum = true) : c.toNat < 128 := by
  have hranges : (decide ('A'.val ≤ c.val ∧ c.val ≤ 'Z'.val) ||
      (decide ('a'.val ≤ c.val) && decide (c.val ≤ 'z'.val)) ||
        (decide ('0'.val ≤ c.val) && decide (c.val ≤ '9'.val))) = true := h
  simp only [Bool.or_eq_true, Bool.and_eq_true, decide_eq_true_eq] at hranges
  rcases hranges with (⟨-, hlast⟩ | ⟨-, hlast⟩) | ⟨-, hlast⟩ <;>
    exact Nat.lt_of_le_of_lt (UInt32.le_iff_toNat_le.mp hlast) (by decide)

theorem isAlphanum_of_isAlpha {c : Char} (h : c.isAlpha = true) : c.isAlphanum = true := by
  rw [Char.isAlphanum, h, Bool.true_or]

theorem isAlphanum_of_isDigit {c : Char} (h : c.isDigit = true) : c.isAlphanum = true := by
  rw [Char.isAlphanum, h, Bool.or_true]

theorem isDigit_of_isAlpha {c : Char} (h : c.isAlpha = true) : c.isDigit = false := by
  have hall : ∀ c : Char, c.toNat < 128 → c.isAlpha = true → c.isDigit = false :=
    forall_ascii (by decide)
  exact hall c (toNat_lt_of_isAlphanum (isAlphanum_of_isAlpha h)) h

theorem isWhiteSpace_of_isAlphanum {c : Char} (h : c.isAlphanum = true) :
    isWhiteSpace c = false := by
  have hall : ∀ c : Char, c.toNat < 128 → c.isAlphanum = true → isWhiteSpace c = false :=
    forall_ascii (by decide)
  exact hall c (toNat_lt_of_isAlphanum h) h

theorem isAlpha_of_toLower_eq
    {c letter : Char} (h : c.toLower = letter.toLower) (hletter : letter.isAlpha = true) :
    c.isAlpha = true := by
  have hall : ∀ c : Char, c.toNat < 128 → c.toLower.isAlpha = c.isAlpha :=
    forall_ascii (by decide)
  have hascii := toNat_lt_of_isAlphanum (isAlphanum_of_isAlpha hletter)
  have hlower : c.toLower.isAlpha = true := by rw [h, hall letter hascii, hletter]
  by_cases hc : c.toNat < 128
  · rwa [hall c hc] at hlower
  · rwa [toLower_of_not_ascii (Nat.le_of_not_lt hc)] at hlower

theorem toNat_toLower_lt : ∀ c : Char, c.toNat < 128 → c.toLower.toNat < 128 :=
  forall_ascii (by decide)

theorem exists_matchesLetter_of_mem
    {word text : List Char} (h : List.Forall₂ MatchesLetter word text) {c : Char} (hc : c ∈ text) :
    ∃ letter ∈ word, MatchesLetter letter c := by
  induction h with
  | nil => cases hc
  | @cons letter d word text hmatch _ ih =>
      rcases List.mem_cons.mp hc with rfl | hc
      · exact ⟨letter, List.mem_cons_self, hmatch⟩
      · obtain ⟨other, hother, hmatch⟩ := ih hc
        exact ⟨other, List.mem_cons_of_mem _ hother, hmatch⟩

/-! ## Words -/

theorem isAlpha_of_mem_words
    {choice : Customization} {word : String} (hword : word ∈ choice.words) :
    ∀ letter ∈ word.toList, letter.isAlpha = true := by
  have hall : ∀ choice ∈ all, ∀ word ∈ choice.words, word.toList.all Char.isAlpha = true := by
    decide +kernel
  exact List.all_eq_true.mp (hall choice (mem_all choice) word hword)

theorem map_toList_spellings (choice : Customization) :
    choice.spellings.map String.toList =
      choice.words.map fun word => word.toList.map Char.toLower := by
  cases choice <;> decide +kernel

theorem lowercase_append_eq_cons_iff
    {c letter : Char} {rest word : List Char} (hword : ∀ other ∈ word, other.toNat < 128) :
    lowercase c ++ rest = letter :: word ↔ lowercase c = [letter] ∧ rest = word := by
  unfold lowercase
  split
  · -- The dot above would be a character of the word.
    have hdot : '\u0307' :: rest ≠ word := by
      rintro rfl
      exact absurd (hword _ List.mem_cons_self) (by decide)
    simp [hdot]
  · simp

/-- A text in lower case is a word in lower case if it matches the word letter by letter. -/
theorem flatMap_lowercase_eq_iff
    {word text : List Char} (hword : ∀ letter ∈ word, letter.toNat < 128) :
    text.flatMap lowercase = word.map Char.toLower ↔ List.Forall₂ MatchesLetter word text := by
  induction text generalizing word with
  | nil => cases word <;> simp
  | cons c rest ih =>
      cases word with
      | nil =>
          have hform : lowercase c ≠ [] := by
            unfold lowercase
            split <;> simp
          simp [hform]
      | cons letter word =>
          rw [List.forall_mem_cons] at hword
          have hlower : ∀ other ∈ word.map Char.toLower, other.toNat < 128 := by
            intro other hother
            obtain ⟨original, horiginal, rfl⟩ := List.mem_map.mp hother
            exact toNat_toLower_lt original (hword.2 original horiginal)
          rw [List.flatMap_cons, List.map_cons, lowercase_append_eq_cons_iff hlower,
            lowercase_eq_singleton_iff (toNat_toLower_lt letter hword.1), ih hword.2,
            List.forall₂_cons]
          rfl

/-- A text names a customization if it spells one of its words. -/
theorem names_iff {text : List Char} {choice : Customization} :
    Names text choice ↔ ∃ known ∈ choice.spellings, spelling text = known.toList := by
  have hkept : (fun c => !isSeparator c) = fun c : Char => decide (c ≠ '_' ∧ c ≠ '-') := by
    funext c
    simp [isSeparator]
  have hspelling {word : String} (hword : word ∈ choice.words) :
      spelling text = word.toList.map Char.toLower ↔
        List.Forall₂ MatchesLetter word.toList (text.filter fun c => c ≠ '_' ∧ c ≠ '-') := by
    rw [spelling, hkept]
    exact flatMap_lowercase_eq_iff fun letter hletter =>
      toNat_lt_of_isAlphanum (isAlphanum_of_isAlpha (isAlpha_of_mem_words hword letter hletter))
  calc
    Names text choice ↔ spelling text ∈ choice.words.map fun word =>
        word.toList.map Char.toLower := by
      rw [Names, List.mem_map]
      refine exists_congr fun word => and_congr_right fun hword => ?_
      rw [← hspelling hword, eq_comm]
    _ ↔ ∃ known ∈ choice.spellings, spelling text = known.toList := by
      rw [← map_toList_spellings, List.mem_map]
      simp only [eq_comm]

theorem Names.unique
    {text : List Char} {choice other : Customization} (h : Names text choice)
    (hother : Names text other) : choice = other := by
  have hall : ∀ choice ∈ all, ∀ other ∈ all, ∀ known ∈ choice.spellings,
      known ∈ other.spellings → choice = other := by
    decide
  obtain ⟨known, hknown, hspelling⟩ := names_iff.mp h
  obtain ⟨known', hknown', hspelling'⟩ := names_iff.mp hother
  obtain rfl : known = known' := String.toList_inj.mp (hspelling.symm.trans hspelling')
  exact hall choice (mem_all choice) other (mem_all other) known hknown hknown'

theorem ofSpelling?_eq_some_iff {text : List Char} {choice : Customization} :
    ofSpelling? text = some choice ↔ Names text choice := by
  have hany (other : Customization) :
      (other.spellings.any fun known => spelling text == known.toList) = true ↔
        Names text other := by
    rw [names_iff, List.any_eq_true]
    simp only [beq_iff_eq]
  have hnames {other : Customization} (h : ofSpelling? text = some other) : Names text other := by
    have hfound := List.find?_some h
    exact (hany other).mp hfound
  constructor
  · exact hnames
  · intro h
    cases hfound : ofSpelling? text with
    | none =>
        have hnone := List.find?_eq_none.mp hfound choice (mem_all choice)
        exact absurd ((hany choice).mpr h) hnone
    | some other => rw [(hnames hfound).unique h]

theorem Names.isDigit_isWhiteSpace
    {text : List Char} {choice : Customization} (h : Names text choice) {c : Char} (hc : c ∈ text) :
    c.isDigit = false ∧ isWhiteSpace c = false := by
  by_cases hkept : c ≠ '_' ∧ c ≠ '-'
  · obtain ⟨word, hword, hmatches⟩ := h
    have hmem : c ∈ text.filter fun c => c ≠ '_' ∧ c ≠ '-' :=
      List.mem_filter.mpr ⟨hc, decide_eq_true hkept⟩
    obtain ⟨letter, hletter, hlower | ⟨rfl, -⟩⟩ := exists_matchesLetter_of_mem hmatches hmem
    · have halpha := isAlpha_of_toLower_eq hlower (isAlpha_of_mem_words hword letter hletter)
      exact ⟨isDigit_of_isAlpha halpha, isWhiteSpace_of_isAlphanum (isAlphanum_of_isAlpha halpha)⟩
    · decide
  · rw [not_and_or, not_not, not_not] at hkept
    rcases hkept with rfl | rfl <;> decide

/-! ## Reading -/

theorem readFlag?_eq_some_iff {text : List Char} {n : Int} :
    readFlag? text = some n ↔ Text.IsNumeral text n ∧ Text.isInt64 n = true := by
  rw [← Text.integer?_eq_some_iff, readFlag?]
  cases Text.integer? text with
  | none => simp
  | some m =>
      simp only [Option.some.injEq]
      constructor
      · intro h
        split at h
        · next hbound =>
          cases h
          exact ⟨rfl, hbound⟩
        · cases h
      · rintro ⟨rfl, hbound⟩
        rw [if_pos hbound]

variable {text : String} {core : List Char}

/-- A numeral is what white space is put around. -/
theorem isCore_of_isNumeral
    {n : Int} {left numeral right : List Char} (hleft : ∀ c ∈ left, isWhiteSpace c = true)
    (h : Text.IsNumeral numeral n) (hright : ∀ c ∈ right, isWhiteSpace c = true) :
    IsCore numeral (String.ofList (left ++ numeral ++ right)).toList := by
  rw [String.toList_ofList]
  refine isCore_of_padded hleft (fun c hc => ?_) hright
  rcases h.isDigit_or_sign hc with hdigit | rfl | rfl
  · exact isWhiteSpace_of_isAlphanum (isAlphanum_of_isDigit hdigit)
  · decide
  · decide

theorem not_names_of_isNumeral
    {n : Int} (h : Text.IsNumeral core n) (choice : Customization) : ¬ Names core choice := by
  intro hname
  obtain ⟨c, hc, hdigit⟩ := h.exists_digit
  rw [(hname.isDigit_isWhiteSpace hc).1] at hdigit
  cases hdigit

/-- A numeral selects by its flag if the flag fits in 64 bits, and nothing otherwise. -/
theorem parse_of_isNumeral
    (hcore : IsCore core text.toList) {n : Int} (h : Text.IsNumeral core n) :
    parse text = if Text.isInt64 n then ofFlag n else .error ⟨text⟩ := by
  rw [parse, trim_eq_iff.mpr hcore]
  by_cases hbound : Text.isInt64 n = true
  · rw [readFlag?_eq_some_iff.mpr ⟨h, hbound⟩, if_pos hbound]
  · have hflag : readFlag? core = none := by
      refine Option.eq_none_iff_forall_ne_some.mpr fun m hm => ?_
      obtain ⟨hnumeral, hm⟩ := readFlag?_eq_some_iff.mp hm
      rw [hnumeral.unique h] at hm
      exact hbound hm
    have hspelling : ofSpelling? core = none :=
      Option.eq_none_iff_forall_ne_some.mpr fun choice hchoice =>
        not_names_of_isNumeral h choice (ofSpelling?_eq_some_iff.mp hchoice)
    rw [hflag, hspelling, if_neg hbound]

/-- Any other text selects what it names. -/
theorem parse_of_not_isNumeral
    (hcore : IsCore core text.toList) (h : ∀ n, ¬ Text.IsNumeral core n)
    (choice : Customization) :
    parse text = .ok choice ↔ Names core choice := by
  have hflag : readFlag? core = none :=
    Option.eq_none_iff_forall_ne_some.mpr fun n hn => h n (readFlag?_eq_some_iff.mp hn).1
  rw [parse, trim_eq_iff.mpr hcore, hflag, ← ofSpelling?_eq_some_iff]
  cases ofSpelling? core <;> simp

theorem parse_eq_ok_iff {choice : Customization} :
    parse text = .ok choice ↔ Denotes text choice := by
  have hcore := isCore_trim text.toList
  by_cases hnumeral : ∃ n, Text.IsNumeral (trim text.toList) n
  · obtain ⟨n, hn⟩ := hnumeral
    rw [parse_of_isNumeral hcore hn]
    constructor
    · intro h
      split at h
      · rw [← ofFlag_eq_ok_iff.mp h] at hn
        exact .flag hcore hn
      · cases h
    · intro h
      cases h with
      | flag hcore' hflag =>
          rw [trim_eq_iff.mpr hcore'] at hn
          obtain rfl := hn.unique hflag
          have hbound : Text.isInt64 choice.flag = true := by cases choice <;> rfl
          rw [if_pos hbound, ofFlag_flag]
      | name hcore' hname =>
          rw [trim_eq_iff.mpr hcore'] at hn
          exact absurd hname (not_names_of_isNumeral hn choice)
  · rw [not_exists] at hnumeral
    rw [parse_of_not_isNumeral hcore hnumeral]
    constructor
    · exact .name hcore
    · intro h
      cases h with
      | flag hcore' hflag =>
          rw [trim_eq_iff.mpr hcore'] at hnumeral
          exact absurd hflag (hnumeral choice.flag)
      | name hcore' hname => rwa [trim_eq_iff.mpr hcore']

theorem forall₂_matchesLetter_congr
    {word other text : List Char} (h : word.map Char.toLower = other.map Char.toLower) :
    List.Forall₂ MatchesLetter word text ↔ List.Forall₂ MatchesLetter other text := by
  have hlower (word : List Char) : List.Forall₂ MatchesLetter word text ↔
      List.Forall₂ (fun lower c => c.toLower = lower ∨ c = '\u212A' ∧ lower = 'k')
        (word.map Char.toLower) text := by
    rw [List.forall₂_map_left_iff]
    rfl
  rw [hlower, hlower, h]

/-- A name with the case of its letters changed and with separators put in names its
customization. -/
theorem names_of_name
    {choice : Customization} {body : List Char}
    (h : List.Forall₂ (fun letter c => c.toLower = letter.toLower) choice.name.toList
      (body.filter fun c => c ≠ '_' ∧ c ≠ '-')) :
    Names body choice := by
  have hword : ∃ word ∈ choice.words,
      choice.name.toList.map Char.toLower = word.toList.map Char.toLower := by
    cases choice <;> decide
  obtain ⟨word, hword, hlower⟩ := hword
  have hmatches := h.imp fun _ _ hletter => (.inl hletter : MatchesLetter _ _)
  exact ⟨word, hword, (forall₂_matchesLetter_congr hlower).mp hmatches⟩

/-- A text is read as a customization just when it denotes the customization, and no text denotes
two.  In particular a customization is read from its name in any letter case, with separators
anywhere in it and white space around it. -/
theorem parse_reads_denotations :
    (∀ text choice, parse text = .ok choice ↔ Denotes text choice) ∧
      (∀ text choice other, Denotes text choice → Denotes text other → choice = other) ∧
      ∀ (choice : Customization) (left body right : List Char),
        (∀ c ∈ left, isWhiteSpace c = true) → (∀ c ∈ right, isWhiteSpace c = true) →
        List.Forall₂ (fun letter c => c.toLower = letter.toLower) choice.name.toList
          (body.filter fun c => c ≠ '_' ∧ c ≠ '-') →
        parse (String.ofList (left ++ body ++ right)) = .ok choice := by
  refine ⟨fun _ _ => parse_eq_ok_iff, fun text choice other hchoice hother => ?_,
    fun choice left body right hleft hright hbody => ?_⟩
  · have hread := (parse_eq_ok_iff.mpr hchoice).symm.trans (parse_eq_ok_iff.mpr hother)
    exact Except.ok.inj hread
  · have hname := names_of_name hbody
    have hcore := isCore_of_padded hleft (fun c hc => (hname.isDigit_isWhiteSpace hc).2) hright
    rw [parse_eq_ok_iff]
    exact .name (by rwa [String.toList_ofList]) hname

/-- A numeral with a sign and leading zeros, a name with separators and the Kelvin sign, and a name
in mixed case between white space. -/
theorem parse_reads_denotations_of_padded :
    let numeral := '+' :: (List.replicate 3 '0' ++ ['2'])
    let text := String.ofList ([' '] ++ numeral ++ ['\u3000'])
    Denotes text mappingExtension ∧ parse text = .ok mappingExtension ∧
      parse "\tgenerate_SWASHBUC\u212ALE-schemaFilter" = .ok schemaFilter ∧
      Denotes "\tgenerate_SWASHBUC\u212ALE-schemaFilter" schemaFilter ∧
      parse (String.ofList ([' '] ++ ['-', 'o', 'M', '_', 'I', 't'] ++ ['\u3000'])) =
        .ok disabled := by
  intro numeral text
  obtain ⟨hread, -, hname⟩ := parse_reads_denotations
  have hleft : ∀ c ∈ [' '], isWhiteSpace c = true := List.all_eq_true.mp (by decide)
  have hright : ∀ c ∈ ['\u3000'], isWhiteSpace c = true := List.all_eq_true.mp (by decide)
  have hnumeral : Text.IsNumeral numeral mappingExtension.flag :=
    .plus ((Text.writeNumber_toDigits 2).zeros 3)
  have hflag : Denotes text mappingExtension :=
    .flag (isCore_of_isNumeral hleft hnumeral hright) hnumeral
  have hparse : parse "\tgenerate_SWASHBUC\u212ALE-schemaFilter" = .ok schemaFilter := by
    decide +kernel
  exact ⟨hflag, (hread _ _).mpr hflag, hparse, (hread _ _).mp hparse,
    hname disabled [' '] ['-', 'o', 'M', '_', 'I', 't'] ['\u3000'] hleft hright (by decide)⟩

end ValueSchema.Customization

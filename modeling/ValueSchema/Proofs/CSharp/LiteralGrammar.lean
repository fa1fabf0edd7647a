import ValueSchema.Proofs.CSharp.LiteralReader

/-!
# The grammar of C# string literals

Which texts are regular string literals, and what they denote, without a machine that reads them.  A
literal is spelled one character at a time: raw, by a simple escape, or by an escape with
hexadecimal digits, of which an escape that leaves their number open takes as many as it can.  An
escape denotes a character, so the halves of a surrogate pair are not spelled.

The main lemma is `readLiteral?_eq_some_iff`: the machine reads just the literals of the grammar.
-/

namespace ValueSchema.CSharp

/-! ## The grammar -/

/-- The number of hexadecimal digits after a mark that fixes it. -/
def fixedPlaces? : Char → Option Nat
  | 'u' => some 4
  | 'U' => some 8
  | _ => none

/-- The number that hexadecimal digits write behind those of `value`. -/
def hexNumber? (value : Nat) (digits : List Char) : Option Nat :=
  digits.foldlM (fun value c => (Text.hexValue? c).map fun digit => 16 * value + digit) value

def StartsPastDigits (rest : List Char) : Prop := ∀ c ∈ rest.head?, Text.hexValue? c = none

/-- The input spells a character, and the rest follows. -/
inductive Spells : List Char → Char → List Char → Prop where
  | raw {c : Char} {rest : List Char} (hquote : c ≠ '"') (hbackslash : c ≠ '\\')
      (hline : isLineTerminator c = false) :
      Spells (c :: rest) c rest
  | simple {letter c : Char} {rest : List Char} (hvalue : simpleValue? letter = some c) :
      Spells ('\\' :: letter :: rest) c rest
  | fixed {mark c : Char} {digits rest : List Char}
      (hplaces : fixedPlaces? mark = some digits.length)
      (hnumber : hexNumber? 0 digits = some c.toNat) :
      Spells ('\\' :: mark :: (digits ++ rest)) c rest
  | upToFour {c : Char} {digits rest : List Char}
      (hsome : digits ≠ []) (hfour : digits.length ≤ 4)
      (hlongest : digits.length < 4 → StartsPastDigits rest)
      (hnumber : hexNumber? 0 digits = some c.toNat) :
      Spells ('\\' :: 'x' :: (digits ++ rest)) c rest

/-- The input spells a text and closes the literal, and the rest follows. -/
inductive SpellsToEnd : List Char → List Char → List Char → Prop where
  | close {rest : List Char} : SpellsToEnd ('"' :: rest) [] rest
  | cons {input middle text rest : List Char} {c : Char} (hfirst : Spells input c middle)
      (hmore : SpellsToEnd middle text rest) :
      SpellsToEnd input (c :: text) rest

/-- The input begins with a literal of a text, and the rest follows. -/
def BeginsWithLiteral (input text rest : List Char) : Prop :=
  ∃ body, input = '"' :: body ∧ SpellsToEnd body text rest

/-! ## Numbers -/

theorem hexNumber?_cons (value : Nat) (c : Char) (digits : List Char) :
    hexNumber? value (c :: digits) =
      (Text.hexValue? c).bind fun digit => hexNumber? (16 * value + digit) digits := by
  rw [hexNumber?, List.foldlM_cons, Option.bind_eq_bind, Option.bind_map]
  rfl

theorem charOf?_eq_some_iff {n : Nat} {c : Char} : charOf? n = some c ↔ c.toNat = n := by
  constructor
  · intro h
    rw [charOf?] at h
    split at h
    · next hvalid =>
      rw [← Option.some.inj h, Char.ofNat, dif_pos hvalid]
      rfl
    · cases h
  · rintro rfl
    exact LiteralState.charOf?_toNat c

namespace LiteralState

/-! ## The machine reads what is spelled -/

variable {done digits input middle text rest : List Char} {c : Char}

theorem run_digit
    (done : List Char) {left value : Nat} (hlength : digits.length = left + 1)
    (hnumber : hexNumber? value digits = some c.toNat) :
    run (.inside done (.digit left value)) digits = some (.inside (done ++ [c]) .character) := by
  induction digits generalizing left value with
  | nil => cases hlength
  | cons first digits ih =>
      rw [hexNumber?_cons] at hnumber
      obtain ⟨digit, hdigit, hrest⟩ := Option.bind_eq_some_iff.mp hnumber
      cases left with
      | zero =>
          obtain rfl : digits = [] := List.length_eq_zero_iff.mp (Nat.succ.inj hlength)
          have hfound : charOf? (16 * value + digit) = some c :=
            charOf?_eq_some_iff.mpr (Option.some.inj hrest).symm
          simp [run, step, readDigit, hdigit, hfound]
      | succ left =>
          have hnext := ih (Nat.succ.inj hlength) hrest
          simpa [run, step, readDigit, hdigit] using hnext

theorem run_moreDigits
    (done : List Char) {left value number : Nat} (hlength : digits.length ≤ left)
    (hnumber : hexNumber? value digits = some number) :
    run (.inside done (.moreDigits left value)) digits =
      some (.inside done (.moreDigits (left - digits.length) number)) := by
  induction digits generalizing left value with
  | nil =>
      rw [← Option.some.inj hnumber]
      rfl
  | cons first digits ih =>
      rw [hexNumber?_cons] at hnumber
      obtain ⟨digit, hdigit, hrest⟩ := Option.bind_eq_some_iff.mp hnumber
      cases left with
      | zero => cases hlength
      | succ left =>
          have hnext := ih (Nat.le_of_succ_le_succ hlength) hrest
          simpa [run, step, readMoreDigits, hdigit] using hnext

/-- When no more digits can follow, their character is read before what follows. -/
theorem finish_moreDigits
    {left : Nat} (hsome : left ≠ 4) (hlongest : 0 < left → StartsPastDigits rest) :
    finish (.inside done (.moreDigits left c.toNat)) rest =
      finish (.inside (done ++ [c]) .character) rest := by
  cases rest with
  | nil => rfl
  | cons next rest =>
      have hread : readMoreDigits done left c.toNat next = readCharacter (done ++ [c]) next := by
        unfold readMoreDigits
        split
        · next digit left hdigit =>
          have hnone := hlongest (Nat.succ_pos left) next rfl
          rw [hdigit] at hnone
          cases hnone
        · rw [if_neg hsome, charOf?_toNat, Option.bind_some]
      simp only [finish, step, hread]

theorem readEscape_of_fixedPlaces?
    (done : List Char) {mark : Char} {places : Nat} (h : fixedPlaces? mark = some places) :
    ∃ left, places = left + 1 ∧ readEscape done mark = some (.inside done (.digit left 0)) := by
  unfold fixedPlaces? at h
  split at h <;> cases h
  · exact ⟨3, rfl, rfl⟩
  · exact ⟨7, rfl, rfl⟩

theorem finish_of_spells (h : Spells input c rest) :
    finish (.inside done .character) input = finish (.inside (done ++ [c]) .character) rest := by
  cases h with
  | raw hquote hbackslash hline =>
      simp [finish, step, readCharacter, hquote, hbackslash, hline]
  | @simple letter _ _ hvalue =>
      have hmark : letter ≠ 'u' ∧ letter ≠ 'U' ∧ letter ≠ 'x' := by
        refine ⟨?_, ?_, ?_⟩ <;> rintro rfl <;> cases hvalue
      obtain ⟨hu, hU, hx⟩ := hmark
      simp [finish, step, readCharacter, readEscape, hu, hU, hx, hvalue]
  | @fixed mark _ digits _ hplaces hnumber =>
      obtain ⟨left, hlength, hread⟩ := readEscape_of_fixedPlaces? done hplaces
      have hdigits := finish_append (run_digit done hlength hnumber) rest
      simpa [finish, step, readCharacter, hread] using hdigits
  | @upToFour _ digits _ hsome hfour hlongest hnumber =>
      have hlength : 0 < digits.length := List.length_pos_iff.mpr hsome
      have hdigits := finish_append (run_moreDigits done hfour hnumber) rest
      have hlast : finish (.inside done (.moreDigits (4 - digits.length) c.toNat)) rest =
          finish (.inside (done ++ [c]) .character) rest :=
        finish_moreDigits (by omega) fun hleft => hlongest (by omega)
      rw [hlast] at hdigits
      simpa [finish, step, readCharacter, readEscape] using hdigits

theorem finish_of_spellsToEnd (h : SpellsToEnd input text rest) :
    finish (.inside done .character) input = some (done ++ text, rest) := by
  induction h generalizing done with
  | close =>
      rw [List.append_nil]
      exact finish_closed done _
  | cons hfirst _ ih => rw [finish_of_spells hfirst, ih, List.append_assoc, List.singleton_append]

end LiteralState

/-! ## What the machine reads is spelled -/

/-- The input spells what is pending of a literal. -/
def Pending.Completes : Pending → List Char → List Char → List Char → Prop
  | .character, input, text, rest => SpellsToEnd input text rest
  | .escape, input, text, rest => SpellsToEnd ('\\' :: input) text rest
  | .digit left value, input, text, rest =>
    ∃ digits middle c found, input = digits ++ middle ∧ digits.length = left + 1 ∧
      hexNumber? value digits = some c.toNat ∧ text = c :: found ∧ SpellsToEnd middle found rest
  | .moreDigits left value, input, text, rest =>
    ∃ digits middle c found, input = digits ++ middle ∧ (left = 4 → digits ≠ []) ∧
      digits.length ≤ left ∧ (digits.length < left → StartsPastDigits middle) ∧
      hexNumber? value digits = some c.toNat ∧ text = c :: found ∧ SpellsToEnd middle found rest

namespace LiteralState

/-- From a state the input leads to a closed literal of a text, and the rest follows. -/
def Closes : LiteralState → List Char → List Char → List Char → Prop
  | .closed done, input, text, rest => text = done ∧ rest = input
  | .inside done pending, input, text, rest =>
    ∃ found, text = done ++ found ∧ pending.Completes input found rest

variable {next : LiteralState} {done input text rest : List Char} {c : Char}

theorem closes_of_readCharacter
    (h : readCharacter done c = some next) (hnext : next.Closes input text rest) :
    Closes (.inside done .character) (c :: input) text rest := by
  unfold readCharacter at h
  split at h
  · next hquote =>
    subst hquote
    cases h
    obtain ⟨rfl, rfl⟩ := hnext
    exact ⟨[], (List.append_nil _).symm, .close⟩
  · next hquote =>
    split at h
    · next hbackslash =>
      subst hbackslash
      cases h
      exact hnext
    · next hbackslash =>
      split at h
      · cases h
      · next hline =>
        cases h
        obtain ⟨found, rfl, hmore⟩ := hnext
        exact ⟨c :: found, List.append_assoc done [c] found,
          .cons (.raw hquote hbackslash (eq_false_of_ne_true hline)) hmore⟩

theorem closes_of_fixedPlaces?
    {left : Nat} (hplaces : fixedPlaces? c = some (left + 1))
    (hnext : Closes (.inside done (.digit left 0)) input text rest) :
    Closes (.inside done .escape) (c :: input) text rest := by
  obtain ⟨_, rfl, digits, middle, last, found, rfl, hlength, hnumber, rfl, hmore⟩ := hnext
  rw [← hlength] at hplaces
  exact ⟨last :: found, rfl, .cons (.fixed hplaces hnumber) hmore⟩

theorem closes_of_readEscape
    (h : readEscape done c = some next) (hnext : next.Closes input text rest) :
    Closes (.inside done .escape) (c :: input) text rest := by
  unfold readEscape at h
  split at h
  · next hmark =>
    cases h
    exact closes_of_fixedPlaces? (congrArg fixedPlaces? hmark) hnext
  · split at h
    · next hmark =>
      cases h
      exact closes_of_fixedPlaces? (congrArg fixedPlaces? hmark) hnext
    · split at h
      · next hmark =>
        subst hmark
        cases h
        obtain ⟨_, rfl, digits, middle, c, found, rfl, hsome, hfour, hlongest, hnumber, rfl,
          hmore⟩ := hnext
        exact ⟨c :: found, rfl, .cons (.upToFour (hsome rfl) hfour hlongest hnumber) hmore⟩
      · obtain ⟨value, hvalue, rfl⟩ := Option.map_eq_some_iff.mp h
        obtain ⟨found, rfl, hmore⟩ := hnext
        exact ⟨value :: found, List.append_assoc done [value] found, .cons (.simple hvalue) hmore⟩

theorem closes_of_readDigit
    {left value : Nat} (h : readDigit done left value c = some next)
    (hnext : next.Closes input text rest) :
    Closes (.inside done (.digit left value)) (c :: input) text rest := by
  unfold readDigit at h
  split at h
  · cases h
  · next digit hdigit =>
    obtain ⟨last, hlast, rfl⟩ := Option.map_eq_some_iff.mp h
    obtain ⟨found, rfl, hmore⟩ := hnext
    have hnumber : hexNumber? value [c] = some last.toNat := by
      rw [hexNumber?_cons, hdigit, charOf?_eq_some_iff.mp hlast]
      rfl
    exact ⟨last :: found, List.append_assoc done [last] found, [c], input, last, found, rfl, rfl,
      hnumber, rfl, hmore⟩
  · next digit left hdigit =>
    cases h
    obtain ⟨_, rfl, digits, middle, last, found, rfl, hlength, hnumber, rfl, hmore⟩ := hnext
    have hcons : hexNumber? value (c :: digits) = some last.toNat := by
      rw [hexNumber?_cons, hdigit, Option.bind_some, hnumber]
    exact ⟨last :: found, rfl, c :: digits, middle, last, found, rfl, congrArg Nat.succ hlength,
      hcons, rfl, hmore⟩

theorem closes_of_readMoreDigits
    {left value : Nat} (h : readMoreDigits done left value c = some next)
    (hnext : next.Closes input text rest) :
    Closes (.inside done (.moreDigits left value)) (c :: input) text rest := by
  unfold readMoreDigits at h
  split at h
  · next digit left hdigit =>
    cases h
    obtain ⟨_, rfl, digits, middle, last, found, rfl, -, hlength, hlongest, hnumber, rfl, hmore⟩ :=
      hnext
    have hcons : hexNumber? value (c :: digits) = some last.toNat := by
      rw [hexNumber?_cons, hdigit, Option.bind_some, hnumber]
    exact ⟨last :: found, rfl, c :: digits, middle, last, found, rfl,
      fun _ => List.cons_ne_nil c digits, Nat.succ_le_succ hlength,
      fun hless => hlongest (Nat.lt_of_succ_lt_succ hless), hcons, rfl, hmore⟩
  · next left _ _ hpast =>
    split at h
    · cases h
    · next hsome =>
      obtain ⟨last, hlast, hread⟩ := Option.bind_eq_some_iff.mp h
      obtain ⟨found, rfl, hmore⟩ := closes_of_readCharacter hread hnext
      have hstop (hleft : 0 < left) : StartsPastDigits (c :: input) := by
        intro d hd
        cases hd
        refine Option.eq_none_iff_forall_ne_some.mpr fun digit hdigit => ?_
        exact hpast digit (left - 1) hdigit (by omega)
      exact ⟨last :: found, List.append_assoc done [last] found, [], c :: input, last, found, rfl,
        fun hfour => absurd hfour hsome, Nat.zero_le left, hstop,
        congrArg some (charOf?_eq_some_iff.mp hlast).symm, rfl, hmore⟩

/-- A step read backwards: the state before it closes on its character and what the state after it
closes on. -/
theorem closes_of_step
    {state : LiteralState} (h : state.step c = some next) (hnext : next.Closes input text rest) :
    state.Closes (c :: input) text rest := by
  cases state with
  | closed done => cases h
  | inside done pending =>
      cases pending with
      | character => exact closes_of_readCharacter h hnext
      | escape => exact closes_of_readEscape h hnext
      | digit left value => exact closes_of_readDigit h hnext
      | moreDigits left value => exact closes_of_readMoreDigits h hnext

theorem closes_of_finish
    {state : LiteralState} (h : state.finish input = some (text, rest)) :
    state.Closes input text rest := by
  induction input generalizing state with
  | nil =>
      cases state with
      | closed done =>
          cases h
          exact ⟨rfl, rfl⟩
      | inside done pending => cases h
  | cons c input ih =>
      cases state with
      | closed done =>
          cases h
          exact ⟨rfl, rfl⟩
      | inside done pending =>
          rw [finish] at h
          cases hstep : step (.inside done pending) c with
          | none => simp [hstep] at h
          | some next =>
              rw [hstep] at h
              exact closes_of_step hstep (ih h)

end LiteralState

/-! ## Literals -/

/-- The machine reads just the literals of the grammar. -/
theorem readLiteral?_eq_some_iff {input text rest : List Char} :
    readLiteral? input = some (text, rest) ↔ BeginsWithLiteral input text rest := by
  constructor
  · intro h
    unfold readLiteral? at h
    split at h
    · next body =>
      obtain ⟨found, rfl, hspelled⟩ := LiteralState.closes_of_finish h
      exact ⟨body, rfl, hspelled⟩
    · cases h
  · rintro ⟨body, rfl, hspelled⟩
    exact LiteralState.finish_of_spellsToEnd hspelled

/-- A literal is exact and delimits itself: whatever follows the literal of a text, the literal and
no more of it is read, its text is the one that was written, and the grammar allows no other
reading. -/
theorem literal_is_self_delimiting (text rest : String) :
    readLiteral? (literal text ++ rest).toList = some (text.toList, rest.toList) ∧
      ∀ found after, BeginsWithLiteral (literal text ++ rest).toList found after ↔
        found = text.toList ∧ after = rest.toList := by
  have hread : readLiteral? (literal text ++ rest).toList = some (text.toList, rest.toList) := by
    rw [String.toList_append, readLiteral?_literal_append]
  refine ⟨hread, fun found after => ?_⟩
  rw [← readLiteral?_eq_some_iff, hread, Option.some.injEq, Prod.mk.injEq, eq_comm,
    eq_comm (a := after)]

/-- Digits that follow an escape are digits of the text, and those that follow the literal are
left. -/
example :
    readLiteral? (literal "\x00\u001bFF" ++ "00").toList =
      some (['\x00', '\u001b', 'F', 'F'], ['0', '0']) := by
  decide +kernel

end ValueSchema.CSharp

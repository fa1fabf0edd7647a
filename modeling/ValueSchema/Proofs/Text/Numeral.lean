import Mathlib.Data.Nat.Digits.Defs
import ValueSchema.Text.Numeral

/-!
# The grammar of numerals

Which texts are numerals and what they write, without a reader that accumulates a number.  The main
statement, `integer?_eq_some_iff`, is that the reader finds just the integer that a numeral writes;
leading zeros and their number make no difference to it.
-/

namespace ValueSchema.Text

/-! ## The grammar -/

/-- The digits, at least one of them and all in ASCII, write a number in base ten. -/
structure WriteNumber (digits : List Char) (n : Nat) : Prop where
  nonempty : digits ≠ []
  isDigit : ∀ c ∈ digits, c.isDigit = true
  value : Nat.ofDigits 10 (digits.reverse.map fun c => c.toNat - '0'.toNat) = n

/-- The text is a numeral of an integer: digits, with a sign or without. -/
inductive IsNumeral : List Char → Int → Prop where
  | unsigned {digits : List Char} {n : Nat} (h : WriteNumber digits n) : IsNumeral digits n
  | plus {digits : List Char} {n : Nat} (h : WriteNumber digits n) : IsNumeral ('+' :: digits) n
  | minus {digits : List Char} {n : Nat} (h : WriteNumber digits n) : IsNumeral ('-' :: digits) (-n)

/-! ## Digits -/

theorem digitValue?_eq_some_iff {c : Char} {digit : Nat} :
    digitValue? c = some digit ↔ c.isDigit = true ∧ digit = c.toNat - '0'.toNat := by
  have hdigit : c.isDigit = true ↔ '0' ≤ c ∧ c ≤ '9' := by
    rw [Char.isDigit, Bool.and_eq_true, decide_eq_true_eq, decide_eq_true_eq]
    rfl
  rw [digitValue?, hdigit]
  split
  · next h => simp [h, eq_comm]
  · next h => simp [h]

/-- Reading digits onto a number moves it up by as many places. -/
theorem readDigits_eq_some_iff {digits : List Char} {value n : Nat} :
    readDigits value digits = some n ↔
      (∀ c ∈ digits, c.isDigit = true) ∧
        n = value * 10 ^ digits.length +
          Nat.ofDigits 10 (digits.reverse.map fun c => c.toNat - '0'.toNat) := by
  induction digits generalizing value with
  | nil =>
      simp only [readDigits, Option.some.injEq, List.not_mem_nil, false_imp_iff, implies_true,
        true_and, List.length_nil, pow_zero, mul_one, List.reverse_nil, List.map_nil,
        Nat.ofDigits_nil, add_zero]
      exact eq_comm
  | cons c rest ih =>
      have hplace : ∀ digit, (10 * value + digit) * 10 ^ rest.length =
          value * 10 ^ (rest.length + 1) + 10 ^ rest.length * digit := by
        intro digit
        ring
      rw [List.forall_mem_cons, List.reverse_cons, List.map_append, Nat.ofDigits_append,
        List.length_map, List.length_reverse, List.map_singleton, Nat.ofDigits_singleton,
        List.length_cons, readDigits]
      cases hdigit : digitValue? c with
      | none =>
          have hnot : ¬ c.isDigit = true := by
            intro hc
            rw [digitValue?_eq_some_iff.mpr ⟨hc, rfl⟩] at hdigit
            cases hdigit
          simp [hnot]
      | some digit =>
          obtain ⟨hc, rfl⟩ := digitValue?_eq_some_iff.mp hdigit
          simp only [ih, hc, true_and, hplace]
          refine and_congr_right fun _ => ?_
          rw [add_assoc, add_comm (10 ^ rest.length * _)]

theorem natural?_eq_some_iff {digits : List Char} {n : Nat} :
    natural? digits = some n ↔ WriteNumber digits n := by
  constructor
  · intro h
    cases digits with
    | nil => cases h
    | cons c rest =>
        obtain ⟨hdigit, hvalue⟩ := readDigits_eq_some_iff.mp h
        exact ⟨List.cons_ne_nil c rest, hdigit, by simpa using hvalue.symm⟩
  · rintro ⟨hnonempty, hdigit, hvalue⟩
    rw [natural?_eq_readDigits hnonempty, readDigits_eq_some_iff]
    exact ⟨hdigit, by simpa using hvalue.symm⟩

theorem WriteNumber.zeros
    {digits : List Char} {n : Nat} (h : WriteNumber digits n) (count : Nat) :
    WriteNumber (List.replicate count '0' ++ digits) n where
  nonempty := List.append_ne_nil_of_right_ne_nil _ h.nonempty
  isDigit c hc := by
    rcases List.mem_append.mp hc with hzero | hc
    · rw [List.eq_of_mem_replicate hzero]
      decide
    · exact h.isDigit c hc
  value := by
    have hzeros : Nat.ofDigits 10 (List.replicate count 0) = 0 := by
      induction count with
      | zero => rfl
      | succ count ih => rw [List.replicate_succ, Nat.ofDigits_cons, ih]
    rw [List.reverse_append, List.reverse_replicate, List.map_append, List.map_replicate,
      Nat.ofDigits_append, h.value, Nat.sub_self, hzeros, mul_zero, add_zero]

theorem writeNumber_toDigits (n : Nat) : WriteNumber (Nat.toDigits 10 n) n :=
  natural?_eq_some_iff.mp (natural?_toDigits n)

/-! ## Integers -/

theorem isInt64_iff {n : Int} : isInt64 n = true ↔ -2 ^ 63 ≤ n ∧ n < 2 ^ 63 := by
  rw [isInt64, Bool.and_eq_true, decide_eq_true_eq, decide_eq_true_eq]
  omega

theorem integer?_minus (digits : List Char) :
    integer? ('-' :: digits) = (natural? digits).map fun n : Nat => -(n : Int) := by
  rw [integer?]
  cases natural? digits <;> rfl

theorem integer?_eq_some_iff {text : List Char} {n : Int} :
    integer? text = some n ↔ IsNumeral text n := by
  constructor
  · intro h
    unfold integer? at h
    split at h
    · obtain ⟨value, hvalue, rfl⟩ := Option.map_eq_some_iff.mp h
      exact .plus (natural?_eq_some_iff.mp hvalue)
    · next digits =>
      have h := (integer?_minus digits).symm.trans h
      obtain ⟨value, hvalue, rfl⟩ := Option.map_eq_some_iff.mp h
      exact .minus (natural?_eq_some_iff.mp hvalue)
    · obtain ⟨value, hvalue, rfl⟩ := Option.map_eq_some_iff.mp h
      exact .unsigned (natural?_eq_some_iff.mp hvalue)
  · intro h
    cases h with
    | unsigned h =>
        cases text with
        | nil => exact absurd rfl h.nonempty
        | cons c rest =>
            rw [integer?_of_digits (h.isDigit c List.mem_cons_self), natural?_eq_some_iff.mpr h]
            rfl
    | plus h =>
        rw [integer?, natural?_eq_some_iff.mpr h]
        rfl
    | minus h =>
        rw [integer?_minus, natural?_eq_some_iff.mpr h]
        rfl

theorem IsNumeral.unique
    {text : List Char} {n m : Int} (hn : IsNumeral text n) (hm : IsNumeral text m) : n = m :=
  Option.some.inj ((integer?_eq_some_iff.mpr hn).symm.trans (integer?_eq_some_iff.mpr hm))

theorem IsNumeral.isDigit_or_sign
    {text : List Char} {n : Int} (h : IsNumeral text n) {c : Char} (hc : c ∈ text) :
    c.isDigit = true ∨ c = '+' ∨ c = '-' := by
  cases h with
  | unsigned h => exact .inl (h.isDigit c hc)
  | plus h => exact (List.mem_cons.mp hc).elim (.inr ∘ .inl) (.inl ∘ h.isDigit c)
  | minus h => exact (List.mem_cons.mp hc).elim (.inr ∘ .inr) (.inl ∘ h.isDigit c)

/-- A decimal is what the standard library prints. -/
theorem decimal_eq_toString (n : Int) : decimal n = toString n := by
  cases n with
  | ofNat n => rfl
  | negSucc n =>
      change _ = "-" ++ Nat.repr (n + 1)
      rw [decimal, Nat.repr, ← List.singleton_append, String.ofList_append]

theorem isNumeral_decimal (n : Int) : IsNumeral (decimal n).toList n :=
  integer?_eq_some_iff.mp (integer?_decimal n)

theorem IsNumeral.exists_digit {text : List Char} {n : Int} (h : IsNumeral text n) :
    ∃ c ∈ text, c.isDigit = true := by
  have hdigits {digits : List Char} {n : Nat} (h : WriteNumber digits n) :
      ∃ c ∈ digits, c.isDigit = true := by
    obtain ⟨c, hc⟩ := List.exists_mem_of_ne_nil digits h.nonempty
    exact ⟨c, hc, h.isDigit c hc⟩
  cases h with
  | unsigned h => exact hdigits h
  | plus h => exact (hdigits h).imp fun c hc => hc.imp_left (List.mem_cons_of_mem _)
  | minus h => exact (hdigits h).imp fun c hc => hc.imp_left (List.mem_cons_of_mem _)

end ValueSchema.Text

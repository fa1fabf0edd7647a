/-!
# Decimal numerals

Integers written in ASCII digits.  A numeral is an optional sign and at least one digit, with any
number of leading zeros; the decimal of an integer is its one numeral without a plus sign and
without leading zeros.  The main statement is that a decimal reads back as its integer.
-/

namespace ValueSchema.Text

def digitValue? (c : Char) : Option Nat :=
  if '0' ≤ c ∧ c ≤ '9' then some (c.toNat - '0'.toNat) else none

/-- Reads digits onto a number. -/
def readDigits (value : Nat) : List Char → Option Nat
  | [] => some value
  | c :: rest =>
    match digitValue? c with
    | some digit => readDigits (10 * value + digit) rest
    | none => none

/-- The number that a sequence of at least one digit writes. -/
def natural? : List Char → Option Nat
  | [] => none
  | digits => readDigits 0 digits

/-- The integer that a numeral writes. -/
def integer? : List Char → Option Int
  | '+' :: digits => (natural? digits).map Int.ofNat
  | '-' :: digits => (natural? digits).map fun n => -(n : Int)
  | digits => (natural? digits).map Int.ofNat

/-- The integer fits in a signed word of 64 bits. -/
def isInt64 (n : Int) : Bool := -9223372036854775808 ≤ n && n ≤ 9223372036854775807

/-- The decimal of an integer. -/
def decimal : Int → String
  | .ofNat n => String.ofList (Nat.toDigits 10 n)
  | .negSucc n => String.ofList ('-' :: Nat.toDigits 10 (n + 1))

theorem digitValue?_digitChar {d : Nat} (h : d < 10) : digitValue? (Nat.digitChar d) = some d := by
  have all : ∀ d, d < 10 → digitValue? (Nat.digitChar d) = some d := by decide
  exact all d h

theorem readDigits_append (value : Nat) (first second : List Char) :
    readDigits value (first ++ second) =
      (readDigits value first).bind fun next => readDigits next second := by
  induction first generalizing value with
  | nil => rfl
  | cons c rest ih =>
    simp only [List.cons_append, readDigits]
    cases digitValue? c with
    | none => rfl
    | some digit => exact ih (10 * value + digit)

/-- Appending a digit multiplies the number by ten and adds the digit. -/
theorem readDigits_concat {value next d : Nat} {digits : List Char} (hd : d < 10)
    (h : readDigits value digits = some next) :
    readDigits value (digits ++ [Nat.digitChar d]) = some (10 * next + d) := by
  simp [readDigits_append, h, readDigits, digitValue?_digitChar hd]

theorem readDigits_toDigits (n : Nat) : readDigits 0 (Nat.toDigits 10 n) = some n := by
  induction n using Nat.strongRecOn with
  | _ n ih =>
    by_cases h : n < 10
    · rw [Nat.toDigits_of_lt_base h]
      simp [readDigits, digitValue?_digitChar h]
    · rw [Nat.toDigits_of_base_le (by decide) (Nat.le_of_not_lt h)]
      have hquotient := ih (n / 10) (by omega)
      rw [readDigits_concat (Nat.mod_lt n (by decide)) hquotient]
      congr 1
      omega

theorem natural?_eq_readDigits {digits : List Char} (h : digits ≠ []) :
    natural? digits = readDigits 0 digits := by
  cases digits with
  | nil => exact absurd rfl h
  | cons c rest => rfl

theorem natural?_toDigits (n : Nat) : natural? (Nat.toDigits 10 n) = some n := by
  rw [natural?_eq_readDigits Nat.toDigits_ne_nil, readDigits_toDigits]

/-- A text that begins with a digit has no sign. -/
theorem integer?_of_digits {c : Char} {rest : List Char} (h : c.isDigit = true) :
    integer? (c :: rest) = (natural? (c :: rest)).map Int.ofNat := by
  unfold integer?
  split
  · rename_i heq
    rw [(List.cons.inj heq).1] at h
    exact absurd h (by decide)
  · rename_i heq
    rw [(List.cons.inj heq).1] at h
    exact absurd h (by decide)
  · rfl

/-- A decimal reads back as its integer. -/
theorem integer?_decimal (n : Int) : integer? (decimal n).toList = some n := by
  cases n with
  | ofNat n =>
    have hdigits : ∀ c ∈ Nat.toDigits 10 n, c.isDigit = true :=
      fun c hc => Nat.isDigit_of_mem_toDigits (by decide) (by decide) hc
    have hvalue := natural?_toDigits n
    simp only [decimal, String.toList_ofList]
    cases hd : Nat.toDigits 10 n with
    | nil => exact absurd hd Nat.toDigits_ne_nil
    | cons c rest =>
      rw [hd] at hdigits hvalue
      rw [integer?_of_digits (hdigits c (by simp)), hvalue]
      rfl
  | negSucc n =>
    simp only [decimal, String.toList_ofList, integer?, natural?_toDigits]
    rfl

end ValueSchema.Text

import ValueSchema.CSharp.Literal

/-!
# Reading C# string literals

A machine that reads a regular string literal character by character: raw characters, simple
escapes, and escapes by hexadecimal digits.  A character that ends a line of source is refused.  The
main statement is `readLiteral?_literal_append`: the literal of a text reads back as the text,
whatever follows it.
-/

namespace ValueSchema.CSharp

/-! ## The machine -/

/-- The character that a simple escape denotes, by the character after the backslash. -/
def simpleValue? : Char → Option Char
  | '\'' => some '\''
  | '"' => some '"'
  | '\\' => some '\\'
  | '0' => some '\x00'
  | 'a' => some '\x07'
  | 'b' => some '\x08'
  | 'f' => some '\x0C'
  | 'n' => some '\n'
  | 'r' => some '\r'
  | 't' => some '\t'
  | 'v' => some '\x0B'
  | _ => none

def charOf? (n : Nat) : Option Char := if n.isValidChar then some (Char.ofNat n) else none

/-- What comes next inside a literal. -/
inductive Pending where
  /-- A character of the text, or the closing quote. -/
  | character
  /-- The character after a backslash. -/
  | escape
  /-- One more hexadecimal digit and `left` after it, behind the digits of `value`. -/
  | digit (left value : Nat)
  /-- Up to `left` more hexadecimal digits, behind the digits of `value`. -/
  | moreDigits (left value : Nat)
  deriving DecidableEq

/-- A literal being read, with its text so far. -/
inductive LiteralState where
  | inside (text : List Char) (pending : Pending)
  | closed (text : List Char)
  deriving DecidableEq

namespace LiteralState

/-- Reads a character that belongs to no escape. -/
def readCharacter (text : List Char) (c : Char) : Option LiteralState :=
  if c = '"' then some (.closed text)
  else if c = '\\' then some (.inside text .escape)
  else if isLineTerminator c then none
  else some (.inside (text ++ [c]) .character)

def readEscape (text : List Char) (c : Char) : Option LiteralState :=
  if c = 'u' then some (.inside text (.digit 3 0))
  else if c = 'U' then some (.inside text (.digit 7 0))
  else if c = 'x' then some (.inside text (.moreDigits 4 0))
  else (simpleValue? c).map fun found => .inside (text ++ [found]) .character

/-- Reads one of a fixed number of hexadecimal digits. -/
def readDigit (text : List Char) (left value : Nat) (c : Char) : Option LiteralState :=
  match Text.hexValue? c, left with
  | none, _ => none
  | some digit, 0 =>
    (charOf? (16 * value + digit)).map fun found => .inside (text ++ [found]) .character
  | some digit, left + 1 => some (.inside text (.digit left (16 * value + digit)))

/-- Reads one of up to four hexadecimal digits, or the character after them. -/
def readMoreDigits (text : List Char) (left value : Nat) (c : Char) : Option LiteralState :=
  match Text.hexValue? c, left with
  | some digit, left + 1 => some (.inside text (.moreDigits left (16 * value + digit)))
  | _, left =>
    if left = 4 then none
    else (charOf? value).bind fun found => readCharacter (text ++ [found]) c

def step : LiteralState → Char → Option LiteralState
  | .inside text .character, c => readCharacter text c
  | .inside text .escape, c => readEscape text c
  | .inside text (.digit left value), c => readDigit text left value c
  | .inside text (.moreDigits left value), c => readMoreDigits text left value c
  | .closed _, _ => none

def run (state : LiteralState) (input : List Char) : Option LiteralState := input.foldlM step state

/-- Reads on until the literal closes, and returns its text and what follows it. -/
def finish : LiteralState → List Char → Option (List Char × List Char)
  | .closed text, rest => some (text, rest)
  | .inside _ _, [] => none
  | .inside text pending, c :: rest =>
    match step (.inside text pending) c with
    | some next => finish next rest
    | none => none

end LiteralState

/-- Reads the literal at the beginning of a text. -/
def readLiteral? : List Char → Option (List Char × List Char)
  | '"' :: rest => LiteralState.finish (.inside [] .character) rest
  | _ => none

namespace LiteralState

theorem run_append (state : LiteralState) (first second : List Char) :
    state.run (first ++ second) = (state.run first).bind fun next => next.run second := by
  simp [run]

theorem step_closed (text : List Char) (c : Char) : step (.closed text) c = none := rfl

theorem finish_closed (text rest : List Char) : finish (.closed text) rest = some (text, rest) := by
  cases rest <;> rfl

theorem finish_append
    {state next : LiteralState} {input : List Char} (h : state.run input = some next)
    (rest : List Char) :
    state.finish (input ++ rest) = next.finish rest := by
  induction input generalizing state with
  | nil =>
      rw [← Option.some.inj h]
      rfl
  | cons c input ih =>
      cases state with
      | closed text => simp [run, step_closed] at h
      | inside text pending =>
          rw [run, List.foldlM_cons] at h
          cases hstep : step (.inside text pending) c with
          | none => simp [hstep] at h
          | some middle =>
              rw [hstep] at h
              rw [List.cons_append, finish, hstep]
              exact ih h

/-! ## Escapes read back -/

theorem simpleValue?_of_simpleEscape?
    {c letter : Char} (h : simpleEscape? c = some letter) :
    simpleValue? letter = some c ∧ letter ≠ 'u' ∧ letter ≠ 'U' ∧ letter ≠ 'x' ∧
      isLineTerminator letter = false := by
  unfold simpleEscape? at h
  split at h <;> cases h <;> decide

theorem quote_backslash_of_simpleEscape?_eq_none
    {c : Char} (h : simpleEscape? c = none) :
    c ≠ '"' ∧ c ≠ '\\' := by
  constructor
  · rintro rfl
    cases h
  · rintro rfl
    cases h

theorem toNat_lt_of_isControl_or_isLineTerminator
    {c : Char} (h : (isControl c || isLineTerminator c) = true) :
    c.toNat < 65536 := by
  simp only [isControl, isLineTerminator, Bool.or_eq_true, Bool.and_eq_true, decide_eq_true_eq] at h
  rcases h with (h | ⟨_, h⟩) | (((rfl | rfl) | rfl) | rfl) | rfl
  · omega
  · omega
  all_goals decide

theorem charOf?_toNat (c : Char) : charOf? c.toNat = some c := by
  have hvalid : c.toNat.isValidChar := c.valid
  rw [charOf?, if_pos hvalid, Char.ofNat_toNat]

theorem run_hexDigits
    (text : List Char) {c : Char} (h : c.toNat < 65536) :
    run (.inside text (.digit 3 0)) (Text.hexDigits 4 c.toNat) =
      some (.inside (text ++ [c]) .character) := by
  have hdigit (n : Nat) := Text.hexValue?_digitChar (Nat.mod_lt n (show 16 > 0 by decide))
  have hvalue : 16 * (16 * (16 * (c.toNat / 16 / 16 / 16 % 16) + c.toNat / 16 / 16 % 16) +
      c.toNat / 16 % 16) + c.toNat % 16 = c.toNat := by omega
  simp [run, Text.hexDigits, step, readDigit, hdigit, hvalue, charOf?_toNat]

theorem run_escapeChar (text : List Char) (c : Char) :
    run (.inside text .character) (escapeChar c) = some (.inside (text ++ [c]) .character) := by
  rw [escapeChar_eq]
  cases hsimple : simpleEscape? c with
  | some letter =>
      obtain ⟨hvalue, hu, hU, hx, -⟩ := simpleValue?_of_simpleEscape? hsimple
      simp [run, step, readCharacter, readEscape, hu, hU, hx, hvalue]
  | none =>
      obtain ⟨hquote, hbackslash⟩ := quote_backslash_of_simpleEscape?_eq_none hsimple
      cases hescaped : isControl c || isLineTerminator c with
      | true =>
          have hdigits := run_hexDigits text (toNat_lt_of_isControl_or_isLineTerminator hescaped)
          simpa [run, step, readCharacter, readEscape] using hdigits
      | false =>
          have hline : isLineTerminator c = false := (Bool.or_eq_false_iff.mp hescaped).2
          simp [run, step, readCharacter, hquote, hbackslash, hline]

theorem run_escape (text found : List Char) :
    run (.inside text .character) (found.flatMap escapeChar) =
      some (.inside (text ++ found) .character) := by
  induction found generalizing text with
  | nil => simp [run]
  | cons c rest ih =>
      rw [List.flatMap_cons, run_append, run_escapeChar, Option.bind_some, ih,
        List.append_assoc, List.singleton_append]

/-- A literal is read from its opening quote to its closing quote. -/
theorem run_literal (text : String) :
    run (.inside [] .character) (text.toList.flatMap escapeChar ++ ['"']) =
      some (.closed text.toList) := by
  rw [run_append, run_escape]
  rfl

end LiteralState

/-- The literal of a text reads back as the text, and what follows it is left. -/
theorem readLiteral?_literal_append (text : String) (rest : List Char) :
    readLiteral? ((literal text).toList ++ rest) = some (text.toList, rest) := by
  rw [toList_literal, List.cons_append, List.cons_append, readLiteral?]
  exact (LiteralState.finish_append (LiteralState.run_literal text) rest).trans
    (LiteralState.finish_closed text.toList rest)

/-- Two literals with something after them are told apart by their texts. -/
theorem literal_append_inj
    {left right leftRest rightRest : String}
    (h : literal left ++ leftRest = literal right ++ rightRest) :
    left = right ∧ leftRest = rightRest := by
  have hread := congrArg (fun text => readLiteral? text.toList) h
  simp only [String.toList_append, readLiteral?_literal_append] at hread
  obtain ⟨htext, hrest⟩ := Prod.mk.inj (Option.some.inj hread)
  exact ⟨String.toList_inj.mp htext, String.toList_inj.mp hrest⟩

/-! ## Line terminators -/

theorem isLineTerminator_digitChar {d : Nat} (h : d < 16) :
    isLineTerminator (Nat.digitChar d) = false := by
  have all : ∀ d, d < 16 → isLineTerminator (Nat.digitChar d) = false := by decide
  exact all d h

theorem isLineTerminator_of_mem_escapeChar
    {c d : Char} (h : d ∈ escapeChar c) :
    isLineTerminator d = false := by
  rw [escapeChar_eq] at h
  cases hsimple : simpleEscape? c with
  | some letter =>
      rw [hsimple] at h
      obtain rfl | rfl : d = '\\' ∨ d = letter := by simpa using h
      · decide
      · exact (LiteralState.simpleValue?_of_simpleEscape? hsimple).2.2.2.2
  | none =>
      rw [hsimple] at h
      cases hescaped : isControl c || isLineTerminator c with
      | true =>
          simp only [hescaped, if_true, List.mem_cons, Text.hexDigits, List.nil_append,
            List.cons_append, List.not_mem_nil, or_false] at h
          rcases h with rfl | rfl | rfl | rfl | rfl | rfl
          · decide
          · decide
          all_goals exact isLineTerminator_digitChar (Nat.mod_lt _ (by decide))
      | false =>
          obtain rfl : d = c := by simpa [hescaped] using h
          exact (Bool.or_eq_false_iff.mp hescaped).2

theorem isLineTerminator_of_mem_literal
    {text : String} {c : Char} (h : c ∈ (literal text).toList) :
    isLineTerminator c = false := by
  rw [toList_literal, List.cons_append, List.mem_cons, List.mem_append, List.mem_singleton] at h
  rcases h with rfl | h | rfl
  · decide
  · obtain ⟨original, -, horiginal⟩ := List.mem_flatMap.mp h
    exact isLineTerminator_of_mem_escapeChar horiginal
  · decide

end ValueSchema.CSharp

/-!
# Readers

A reader takes a value off the front of a text, or fails.  Repetition counts down the length of the
text, which bounds it because each round takes at least one character.
-/

namespace ValueSchema.Toml

/-- Takes a value off the front of a text. -/
abbrev Reader (α : Type) := List Char → Option (α × List Char)

namespace Reader

variable {α : Type}

/-- At most so many rounds of a reader, up to its first failure. -/
def atMost (read : Reader α) : Nat → List Char → List α × List Char
  | 0, input => ([], input)
  | rounds + 1, input =>
    match read input with
    | none => ([], input)
    | some (value, rest) =>
      let (values, rest) := atMost read rounds rest
      (value :: values, rest)

/-- All the values that a reader takes in turn. -/
def many (read : Reader α) (input : List Char) : List α × List Char :=
  atMost read input.length input

/-- The longest front part whose characters satisfy the test. -/
def span (test : Char → Bool) (input : List Char) : List Char × List Char :=
  (input.takeWhile test, input.dropWhile test)

end Reader

def isBlank (c : Char) : Bool := c = ' ' || c = '\t'

/-- Drops the blanks at the front. -/
def skipBlanks (input : List Char) : List Char := input.dropWhile isBlank

/-- A character that may stand in comments and in quoted text: no control but the tab. -/
def isPlain (c : Char) : Bool := c = '\t' || (' ' ≤ c && c ≠ '\x7F')

/-- Takes a line ending: a line feed, with or without a carriage return before it. -/
def newline : List Char → Option (List Char)
  | '\n' :: rest => some rest
  | '\r' :: '\n' :: rest => some rest
  | _ => none

/-- Drops a comment at the front. -/
def skipComment : List Char → List Char
  | '#' :: rest => rest.dropWhile isPlain
  | input => input

/-- Drops the blanks and line endings at the front. -/
def skipLines : List Char → List Char
  | ' ' :: rest => skipLines rest
  | '\t' :: rest => skipLines rest
  | '\n' :: rest => skipLines rest
  | '\r' :: '\n' :: rest => skipLines rest
  | input => input

/-- Takes blanks, a line ending or a comment with its line ending. -/
def gap : Reader Unit
  | ' ' :: rest => some ((), rest)
  | '\t' :: rest => some ((), rest)
  | '#' :: rest => (newline (rest.dropWhile isPlain)).map ((), ·)
  | input => (newline input).map ((), ·)

/-- Drops blanks, line endings and comments between the elements of an array. -/
def skipGaps (input : List Char) : List Char := (Reader.many gap input).2

end ValueSchema.Toml

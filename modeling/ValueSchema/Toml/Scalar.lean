import ValueSchema.Text.Numeral
import ValueSchema.Toml.Quoted
import ValueSchema.Toml.Value

/-!
# TOML scalars

Numbers, dates, times and truth values.  Underscores may stand between digits.  An integer must fit
in 64 bits, and a positive number must not exceed the finite floating point numbers.
-/

namespace ValueSchema.Toml

/-- Reads digits after a first one; an underscore must stand between two digits. -/
def moreDigits (isDigit : Char → Bool) : Reader (List Char)
  | [] => some ([], [])
  | '_' :: c :: rest =>
    if isDigit c then (moreDigits isDigit rest).map fun (digits, rest) => (c :: digits, rest)
    else none
  | c :: rest =>
    if isDigit c then (moreDigits isDigit rest).map fun (digits, rest) => (c :: digits, rest)
    else if c = '_' then none
    else some ([], c :: rest)

/-- Reads at least one digit. -/
def digits (isDigit : Char → Bool) : Reader (List Char)
  | [] => none
  | c :: rest =>
    if isDigit c then (moreDigits isDigit rest).map fun (digits, rest) => (c :: digits, rest)
    else none

/-- The number that digits write in a base. -/
def ofDigits (base : Nat) (digits : List Char) : Nat :=
  digits.foldl (fun value c => base * value + (Text.hexValue? c).getD 0) 0

/-- Reads a sign: whether it is a minus sign. -/
def sign : List Char → Bool × List Char
  | '+' :: rest => (false, rest)
  | '-' :: rest => (true, rest)
  | input => (false, input)

/-- Reads decimal digits without leading zeros. -/
def decimalDigits : Reader (List Char)
  | '0' :: rest => some (['0'], rest)
  | input => digits Char.isDigit input

/-- Accepts an integer of 64 bits. -/
def integerValue (n : Int) : Option Value := if Text.isInt64 n then some (.integer n) else none

/-- Reads an integer in a base after its mark. -/
def inBase (base : Nat) (isDigit : Char → Bool) : Reader Value := fun input => do
  let (text, rest) ← digits isDigit input
  let value ← integerValue (ofDigits base text)
  some (value, rest)

/-- Reads an integer: decimal with an optional sign, or in one of the marked bases without. -/
def integer : Reader Value
  | '0' :: 'x' :: rest => inBase 16 (fun c => (Text.hexValue? c).isSome) rest
  | '0' :: 'o' :: rest => inBase 8 (fun c => '0' ≤ c && c ≤ '7') rest
  | '0' :: 'b' :: rest => inBase 2 (fun c => c = '0' || c = '1') rest
  | input => do
    let (negative, rest) := sign input
    let (text, rest) ← decimalDigits rest
    let magnitude : Int := ofDigits 10 text
    let value ← integerValue (if negative then -magnitude else magnitude)
    some (value, rest)

def exponent : Reader Int
  | c :: rest =>
    if c = 'e' || c = 'E' then do
      let (negative, rest) := sign rest
      let (text, rest) ← digits Char.isDigit rest
      let magnitude : Int := ofDigits 10 text
      some (if negative then -magnitude else magnitude, rest)
    else none
  | [] => none

/-- Accepts a number that is not beyond the largest finite one. -/
def floatValue (x : Binary64) : Option Value :=
  if x = .infinity false then none else some (.float x)

def decimalFloat : Reader Value := fun input => do
  let (negative, rest) := sign input
  let (whole, rest) ← decimalDigits rest
  match rest with
  | '.' :: rest => do
    let (fraction, rest) ← digits Char.isDigit rest
    let (power, rest) := (exponent rest).getD (0, rest)
    let value ← floatValue
      (.ofDecimal negative (ofDigits 10 (whole ++ fraction)) (power - fraction.length))
    some (value, rest)
  | rest => do
    let (power, rest) ← exponent rest
    let value ← floatValue (.ofDecimal negative (ofDigits 10 whole) power)
    some (value, rest)

/-- Reads an infinity or no number at all, by name. -/
def namedFloat : Reader Value := fun input =>
  match sign input with
  | (negative, 'i' :: 'n' :: 'f' :: rest) => some (.float (.infinity negative), rest)
  | (_, 'n' :: 'a' :: 'n' :: rest) => some (.float .nan, rest)
  | _ => none

/-- Reads so many digits as a number between two bounds. -/
def bounded (places low high : Nat) : Reader Nat := fun input =>
  let text := input.take places
  let value := ofDigits 10 text
  if text.length = places && text.all Char.isDigit && low ≤ value && value ≤ high then
    some (value, input.drop places)
  else none

def daysInMonth (year month : Nat) : Nat :=
  if month = 2 then
    if year % 4 = 0 && (year % 100 ≠ 0 || year % 400 = 0) then 29 else 28
  else if month = 4 || month = 6 || month = 9 || month = 11 then 30
  else 31

def date (input : List Char) : Option (List Char) := do
  let (year, rest) ← bounded 4 0 9999 input
  let rest ← Text.afterMark? ['-'] rest
  let (month, rest) ← bounded 2 1 12 rest
  let rest ← Text.afterMark? ['-'] rest
  let (_, rest) ← bounded 2 1 (daysInMonth year month) rest
  some rest

/-- Drops a fraction of a second. -/
def skipFraction : List Char → List Char
  | '.' :: c :: rest => if c.isDigit then rest.dropWhile Char.isDigit else '.' :: c :: rest
  | input => input

def time (input : List Char) : Option (List Char) := do
  let (_, rest) ← bounded 2 0 23 input
  let rest ← Text.afterMark? [':'] rest
  let (_, rest) ← bounded 2 0 59 rest
  let rest ← Text.afterMark? [':'] rest
  let (_, rest) ← bounded 2 0 60 rest
  some (skipFraction rest)

def offset : List Char → Option (List Char)
  | 'Z' :: rest => some rest
  | 'z' :: rest => some rest
  | c :: rest =>
    if c = '+' || c = '-' then do
      let (_, rest) ← bounded 2 0 23 rest
      let rest ← Text.afterMark? [':'] rest
      let (_, rest) ← bounded 2 0 59 rest
      some rest
    else none
  | [] => none

/-- Reads a time after a date, with the mark between them, and an offset if there is one. -/
def timeOfDate : List Char → Option (List Char)
  | c :: rest =>
    if c = 'T' || c = 't' || c = ' ' then do
      let rest ← time rest
      some ((offset rest).getD rest)
    else none
  | [] => none

def dateTime : Reader Value := fun input =>
  match date input with
  | some rest => some (.dateTime, (timeOfDate rest).getD rest)
  | none => (time input).map (.dateTime, ·)

/-- Reads a date, a time or a number.  The longer forms come first. -/
def numeric : Reader Value := fun input =>
  (dateTime input <|> decimalFloat input) <|> (namedFloat input <|> integer input)

def boolean : Reader Value
  | 't' :: 'r' :: 'u' :: 'e' :: rest => some (.boolean true, rest)
  | 'f' :: 'a' :: 'l' :: 's' :: 'e' :: rest => some (.boolean false, rest)
  | _ => none

/-- Reads a value that is neither an array nor a table. -/
def scalar : Reader Value := fun input =>
  (quoted input).map (fun (text, rest) => (.string text, rest)) <|>
    (boolean input <|> numeric input)

end ValueSchema.Toml

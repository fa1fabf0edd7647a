import ValueSchema.Text.Hexadecimal
import ValueSchema.Text.Mark
import ValueSchema.Toml.Reader

/-!
# Quoted text in TOML

Text in double quotes, with escapes, and text in single quotes, without; each on one line or, in
triple quotes, over several.  In a text over several lines a line ending right after the opening
quotes is dropped, every other line ending reads as a line feed, and the text may end in one or two
quotes of its own.
-/

namespace ValueSchema.Toml

/-- Reads so many hexadecimal digits onto a number. -/
def hexDigits : Nat → Nat → Reader Nat
  | 0, value, input => some (value, input)
  | _ + 1, _, [] => none
  | places + 1, value, c :: rest =>
    match Text.hexValue? c with
    | some digit => hexDigits places (16 * value + digit) rest
    | none => none

/-- Reads a character by its code point in so many digits. -/
def codePoint (places : Nat) : Reader Char := fun input => do
  let (code, rest) ← hexDigits places 0 input
  if code.isValidChar then some (Char.ofNat code, rest) else none

def escape : Reader Char
  | 'b' :: rest => some ('\x08', rest)
  | 'f' :: rest => some ('\x0C', rest)
  | 'n' :: rest => some ('\n', rest)
  | 'r' :: rest => some ('\r', rest)
  | 't' :: rest => some ('\t', rest)
  | '"' :: rest => some ('"', rest)
  | '\\' :: rest => some ('\\', rest)
  | 'u' :: rest => codePoint 4 rest
  | 'U' :: rest => codePoint 8 rest
  | _ => none

/-- Reads a character that stands for itself. -/
def plain : Reader (List Char)
  | c :: rest => if isPlain c then some ([c], rest) else none
  | [] => none

/-- Reads a piece of text in double quotes. -/
def basicPiece : Reader (List Char)
  | '"' :: _ => none
  | '\\' :: rest => (escape rest).map fun (c, rest) => ([c], rest)
  | input => plain input

/-- Reads text in double quotes after the opening quote. -/
def basic : Reader String := fun input =>
  match Reader.many basicPiece input with
  | (pieces, '"' :: rest) => some (String.ofList pieces.flatten, rest)
  | _ => none

/-- Reads text in single quotes after the opening quote. -/
def literal : Reader String := fun input =>
  match Reader.span (fun c => isPlain c && c ≠ '\'') input with
  | (text, '\'' :: rest) => some (String.ofList text, rest)
  | _ => none

/-- Reads what follows the backslash at the end of a line: the blanks and line endings up to the
next text. -/
def lineContinuation (input : List Char) : Option (List Char) :=
  (newline (skipBlanks input)).map skipLines

/-- Reads a piece of text in triple double quotes. -/
def longBasicPiece : Reader (List Char)
  | '"' :: '"' :: '"' :: _ => none
  | '"' :: rest => some (['"'], rest)
  | '\\' :: rest =>
    match lineContinuation rest with
    | some rest => some ([], rest)
    | none => (escape rest).map fun (c, rest) => ([c], rest)
  | input =>
    match newline input with
    | some rest => some (['\n'], rest)
    | none => plain input

/-- Reads a piece of text in triple single quotes. -/
def longLiteralPiece : Reader (List Char)
  | '\'' :: '\'' :: '\'' :: _ => none
  | '\'' :: rest => some (['\''], rest)
  | input =>
    match newline input with
    | some rest => some (['\n'], rest)
    | none => plain input

/-- Reads the closing triple quotes with up to two quotes of the text before them. -/
def closeLong (quote : Char) : Reader (List Char) := fun input =>
  match Text.afterMark? [quote, quote, quote, quote, quote] input,
    Text.afterMark? [quote, quote, quote, quote] input,
    Text.afterMark? [quote, quote, quote] input with
  | some rest, _, _ => some ([quote, quote], rest)
  | none, some rest, _ => some ([quote], rest)
  | none, none, some rest => some ([], rest)
  | none, none, none => none

/-- Reads text in triple quotes after the opening quotes. -/
def long (quote : Char) (piece : Reader (List Char)) : Reader String := fun input => do
  let (pieces, rest) := Reader.many piece ((newline input).getD input)
  let (closing, rest) ← closeLong quote rest
  some (String.ofList (pieces.flatten ++ closing), rest)

/-- Reads quoted text of any of the four kinds. -/
def quoted : Reader String
  | '"' :: '"' :: '"' :: rest => long '"' longBasicPiece rest
  | '"' :: rest => basic rest
  | '\'' :: '\'' :: '\'' :: rest => long '\'' longLiteralPiece rest
  | '\'' :: rest => literal rest
  | _ => none

def isBareKey (c : Char) : Bool :=
  c.isAlphanum || c = '-' || c = '_'

/-- Reads one part of a key: bare, or quoted on one line. -/
def keyPart : Reader String
  | '"' :: rest => basic rest
  | '\'' :: rest => literal rest
  | input =>
    match Reader.span isBareKey input with
    | ([], _) => none
    | (name, rest) => some (String.ofList name, rest)

/-- Reads a further part of a dotted key, with its dot. -/
def dottedPart : Reader String
  | '.' :: rest => (keyPart (skipBlanks rest)).map fun (name, rest) => (name, skipBlanks rest)
  | _ => none

/-- The number of parts at which a key is refused. -/
def depthLimit : Nat := 80

/-- Reads a dotted key with the blanks around it: the parts before the last, and the last. -/
def key : Reader (List String × String) := fun input => do
  let (first, rest) ← keyPart (skipBlanks input)
  let (others, rest) := Reader.many dottedPart (skipBlanks rest)
  if depthLimit ≤ others.length + 1 then none
  else some (((first :: others).dropLast, (others.getLast?).getD first), rest)

end ValueSchema.Toml

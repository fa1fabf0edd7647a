import ValueSchema.Text.Hexadecimal
import ValueSchema.Text.Runs

/-!
# C# string literals

A text written as a regular C# string literal.  Each character is escaped on its own: with a letter
where C# has a simple escape, by four hexadecimal digits where the character is another control or
ends a line of C# source, and not at all otherwise.  Characters that are not escaped are copied run
by run, which makes no difference: escaping distributes over concatenation.
-/

namespace ValueSchema.CSharp

/-- General category Cc. -/
def isControl (c : Char) : Bool :=
  c.toNat < 0x20 || (0x7F ≤ c.toNat && c.toNat ≤ 0x9F)

/-- A character that ends a line of C# source. -/
def isLineTerminator (c : Char) : Bool :=
  c = '\n' || c = '\r' || c = '\u0085' || c = '\u2028' || c = '\u2029'

/-- The character after the backslash in a simple escape. -/
def simpleEscape? : Char → Option Char
  | '\x00' => some '0'
  | '\x07' => some 'a'
  | '\x08' => some 'b'
  | '\x0C' => some 'f'
  | '\n' => some 'n'
  | '\r' => some 'r'
  | '\t' => some 't'
  | '\x0B' => some 'v'
  | '"' => some '"'
  | '\\' => some '\\'
  | _ => none

/-- The escape of a character that cannot stand for itself. -/
def escaped? (c : Char) : Option (List Char) :=
  match simpleEscape? c with
  | some letter => some ['\\', letter]
  | none =>
    if isControl c || isLineTerminator c then some ('\\' :: 'u' :: Text.hexDigits 4 c.toNat)
    else none

/-- A character as it stands inside a literal. -/
def escapeChar : Char → List Char := Text.replaced escaped?

def escape (text : String) : String := Text.replaceRuns escaped? text

def literal (text : String) : String := "\"" ++ escape text ++ "\""

theorem escapeChar_eq (c : Char) :
    escapeChar c =
      match simpleEscape? c with
      | some letter => ['\\', letter]
      | none =>
        if isControl c || isLineTerminator c then '\\' :: 'u' :: Text.hexDigits 4 c.toNat
        else [c] := by
  unfold escapeChar Text.replaced escaped?
  cases simpleEscape? c with
  | some letter => rfl
  | none => cases isControl c || isLineTerminator c <;> rfl

@[simp] theorem toList_escape (text : String) :
    (escape text).toList = text.toList.flatMap escapeChar :=
  Text.toList_replaceRuns escaped? text

@[simp] theorem toList_literal (text : String) :
    (literal text).toList = '"' :: text.toList.flatMap escapeChar ++ ['"'] := by
  simp [literal]

theorem escape_append (left right : String) :
    escape (left ++ right) = escape left ++ escape right := by
  apply String.toList_inj.mp
  simp

end ValueSchema.CSharp

import ValueSchema.Text.Hexadecimal
import ValueSchema.Unicode.Printable

/-!
# Text quoted in messages

A message shows a text in double quotes on one line.  Quotes, backslashes and the common controls
are written with a backslash; a character that would not show on its own is written by its code
point.
-/

namespace ValueSchema.Text

/-- A character as it stands inside the quotes. -/
def quotedChar (c : Char) : List Char :=
  match c with
  | '\x00' => ['\\', '0']
  | '\t' => ['\\', 't']
  | '\n' => ['\\', 'n']
  | '\r' => ['\\', 'r']
  | '"' => ['\\', '"']
  | '\\' => ['\\', '\\']
  | c =>
    if Unicode.isAttached c || !Unicode.isPrintable c then
      ['\\', 'u', '\x7b'] ++ hexNumber c.toNat ++ ['\x7d']
    else [c]

/-- The text in double quotes. -/
def quoted (text : String) : String :=
  String.ofList ('"' :: text.toList.flatMap quotedChar ++ ['"'])

end ValueSchema.Text

import ValueSchema.Text.Mark
import ValueSchema.Text.Numeral

/-!
# Positions at the end of messages

A message may end with the place of its cause, as in `trailing comma at line 3 column 8`.  Such a
place is read off and written anew, so that its numbers lose their leading zeros.  Lines are counted
from one: line zero stands for no place at all and is left out.
-/

namespace ValueSchema

structure Position where
  line : Nat
  column : Nat
  deriving DecidableEq

namespace Position

def lineMark : List Char := [' ', 'a', 't', ' ', 'l', 'i', 'n', 'e', ' ']

def columnMark : List Char := [' ', 'c', 'o', 'l', 'u', 'm', 'n', ' ']

/-- The numbers of a place fit in a word of 64 bits. -/
def bound : Nat := 0x10000000000000000

def number? (digits : List Char) : Option Nat := (Text.natural? digits).filter (· < bound)

/-- The position that stands after the mark of the line. -/
def ofText? (text : List Char) : Option Position := do
  let column ← Text.afterMark? columnMark (text.dropWhile Char.isDigit)
  some ⟨← number? (text.takeWhile Char.isDigit), ← number? column⟩

/-- The position as it stands after the mark of the line. -/
def text (position : Position) : List Char :=
  Nat.toDigits 10 position.line ++ columnMark ++ Nat.toDigits 10 position.column

/-- The position as the end of a message. -/
def suffix (position : Position) : List Char :=
  if position.line = 0 then [] else lineMark ++ position.text

end Position

/-- The message with the position at its end, if it has one, written anew. -/
def settlePosition (message : String) : String :=
  let settled := do
    let (cause, place) ← Text.splitAtLast? Position.lineMark message.toList
    let position ← Position.ofText? place
    some (String.ofList (cause ++ position.suffix))
  settled.getD message

/-- A message that lacks a character of the mark has no position at its end. -/
theorem settlePosition_of_not_mem {message : String} {c : Char} (hmark : c ∈ Position.lineMark)
    (h : c ∉ message.toList) : settlePosition message = message := by
  have hsplit : Text.splitAtLast? Position.lineMark message.toList = none := by
    refine Option.eq_none_iff_forall_ne_some.mpr fun (before, after) hparts => h ?_
    rw [← Text.append_of_splitAtLast?_eq_some hparts]
    exact List.mem_append_left _ (List.mem_append_right _ hmark)
  rw [settlePosition, hsplit]
  rfl

end ValueSchema

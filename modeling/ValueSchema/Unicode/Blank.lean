import ValueSchema.Unicode.RangeTable

/-!
# White space

The White_Space property, the trimming of a text at both ends, and the blank texts: those that are
white space throughout.
-/

namespace ValueSchema.Unicode

/-- The White_Space property. -/
def whiteSpace : RangeTable :=
  [(0x0009, 0x000D), (0x0020, 0x0020), (0x0085, 0x0085), (0x00A0, 0x00A0), (0x1680, 0x1680),
   (0x2000, 0x200A), (0x2028, 0x2029), (0x202F, 0x202F), (0x205F, 0x205F), (0x3000, 0x3000)]

def isWhiteSpace (c : Char) : Bool := whiteSpace.contains c

/-- Drops the white space at both ends. -/
def trim (text : List Char) : List Char :=
  ((text.dropWhile isWhiteSpace).reverse.dropWhile isWhiteSpace).reverse

def isBlank (text : String) : Bool := text.toList.all isWhiteSpace

theorem dropWhile_isWhiteSpace_eq_nil_iff {text : List Char} :
    text.dropWhile isWhiteSpace = [] ↔ ∀ c ∈ text, isWhiteSpace c = true := by
  induction text with
  | nil => simp
  | cons c rest ih =>
    by_cases h : isWhiteSpace c = true <;> simp [h, ih]

end ValueSchema.Unicode

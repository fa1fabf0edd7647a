/-!
# Tables of code point ranges

A property of characters is given by the inclusive ranges of code points that have it.  The main
statement, `RangeTable.contains_iff`, reads a table as the union of its ranges.
-/

namespace ValueSchema.Unicode

/-- Inclusive ranges of code points, lowest first. -/
abbrev RangeTable := List (Nat × Nat)

namespace RangeTable

/-- Some range of the table holds the character. -/
def contains (table : RangeTable) (c : Char) : Bool :=
  table.any fun range => range.1 ≤ c.toNat && c.toNat ≤ range.2

theorem contains_iff {table : RangeTable} {c : Char} :
    table.contains c = true ↔ ∃ range ∈ table, range.1 ≤ c.toNat ∧ c.toNat ≤ range.2 := by
  simp [contains]

theorem contains_append (left right : RangeTable) (c : Char) :
    contains (left ++ right) c = (contains left c || contains right c) := by
  simp [contains]

end RangeTable

end ValueSchema.Unicode

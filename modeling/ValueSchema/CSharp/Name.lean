import ValueSchema.Unicode.Number

/-!
# C# names

The identifiers and the dotted names that a configuration may hold.  An identifier is an optional
at sign, a start character and any number of part characters; a qualified name is a sequence of
identifiers joined by dots.
-/

namespace ValueSchema.CSharp

def isIdentifierStart (c : Char) : Bool := c = '_' || Unicode.isAlphabetic c

def isIdentifierPart (c : Char) : Bool := c = '_' || Unicode.isAlphanumeric c

/-- A start character followed by part characters. -/
def isPlainIdentifier : List Char → Bool
  | [] => false
  | first :: rest => isIdentifierStart first && rest.all isIdentifierPart

/-- An identifier, with at most one at sign before it. -/
def isIdentifierText : List Char → Bool
  | '@' :: rest => isPlainIdentifier rest
  | text => isPlainIdentifier text

/-- The pieces of a text between its dots. -/
def segments : List Char → List (List Char)
  | [] => [[]]
  | c :: rest =>
    if c = '.' then [] :: segments rest
    else match segments rest with
      | [] => [[c]]
      | segment :: others => (c :: segment) :: others

def isQualifiedText (text : List Char) : Bool := (segments text).all isIdentifierText

def isIdentifier (name : String) : Bool := isIdentifierText name.toList

def isQualifiedName (name : String) : Bool := isQualifiedText name.toList

theorem segments_ne_nil (text : List Char) : segments text ≠ [] := by
  cases text with
  | nil => simp [segments]
  | cons c rest =>
    rw [segments]
    split
    · simp
    · split <;> simp

@[simp] theorem segments_dot_cons (rest : List Char) :
    segments ('.' :: rest) = [] :: segments rest := by
  simp [segments]

theorem isIdentifierPart_of_start {c : Char} (h : isIdentifierStart c = true) :
    isIdentifierPart c = true := by
  simp only [isIdentifierStart, Bool.or_eq_true] at h
  rcases h with h | h
  · simp [isIdentifierPart, h]
  · simp [isIdentifierPart, Unicode.isAlphanumeric_of_isAlphabetic h]

end ValueSchema.CSharp

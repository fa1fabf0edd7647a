import ValueSchema.Text.Numeral
import ValueSchema.Unicode.Blank
import ValueSchema.Unicode.Lowercase

/-!
# Schema customizations

Which kind of source, if any, is synthesized for the schema framework.  A customization is chosen by
a flag or by a spelling of its name, in which letter case and separators do not count.
-/

namespace ValueSchema

/-- The choice between the kinds of synthesized source. -/
inductive Customization where
  | disabled
  /-- A filter that replaces schemas when the document is built. -/
  | schemaFilter
  /-- A method that maps each value object to the schema of its primitive. -/
  | mappingExtension
  deriving DecidableEq, Inhabited

/-- A text that chooses no customization. -/
structure UnknownCustomization where
  text : String
  deriving DecidableEq

def UnknownCustomization.message (error : UnknownCustomization) : String :=
  "unknown schema customization: " ++ error.text

namespace Customization

def all : List Customization := [disabled, schemaFilter, mappingExtension]

def name : Customization → String
  | disabled => "Omit"
  | schemaFilter => "GenerateSwashbuckleSchemaFilter"
  | mappingExtension => "GenerateSwashbuckleMappingExtensionMethod"

/-- The number that stands for a customization in a project's settings. -/
def flag : Customization → Int
  | disabled => 0
  | schemaFilter => 1
  | mappingExtension => 2

def ofFlag? (n : Int) : Option Customization := all.find? fun choice => choice.flag == n

/-- The customization with a flag; the error holds the decimal of any other number. -/
def ofFlag (n : Int) : Except UnknownCustomization Customization :=
  match ofFlag? n with
  | some choice => .ok choice
  | none => .error ⟨Text.decimal n⟩

/-- The spellings of a customization, in lower case and without separators. -/
def spellings : Customization → List String
  | disabled => ["omit", "none", "disabled"]
  | schemaFilter => ["generateswashbuckleschemafilter"]
  | mappingExtension => ["generateswashbucklemappingextensionmethod"]

def isSeparator (c : Char) : Bool := c = '_' || c = '-'

/-- A text without its separators, in lower case. -/
def spelling (text : List Char) : List Char :=
  (text.filter fun c => !isSeparator c).flatMap Unicode.lowercase

/-- The customization that a text spells. -/
def ofSpelling? (text : List Char) : Option Customization :=
  all.find? fun choice => choice.spellings.any fun known => spelling text == known.toList

/-- The flag that a text writes, if it is a numeral of a 64-bit integer. -/
def readFlag? (text : List Char) : Option Int :=
  match Text.integer? text with
  | some n => if Text.isInt64 n then some n else none
  | none => none

/-- Reads a customization from its flag or its name, with white space around it.  The error holds
the decimal of an unknown flag and the whole of any other text. -/
def parse (text : String) : Except UnknownCustomization Customization :=
  match readFlag? (Unicode.trim text.toList) with
  | some n => ofFlag n
  | none =>
    match ofSpelling? (Unicode.trim text.toList) with
    | some choice => .ok choice
    | none => .error ⟨text⟩

theorem mem_all (choice : Customization) : choice ∈ all := by
  cases choice <;> simp [all]

theorem ofFlag?_flag (choice : Customization) : ofFlag? choice.flag = some choice := by
  cases choice <;> decide

theorem ofFlag_flag (choice : Customization) : ofFlag choice.flag = .ok choice := by
  simp [ofFlag, ofFlag?_flag]

theorem flag_eq_of_ofFlag? {n : Int} {choice : Customization} (h : ofFlag? n = some choice) :
    choice.flag = n := by
  have := List.find?_some h
  simpa using this

theorem ofFlag?_eq_some_iff {n : Int} {choice : Customization} :
    ofFlag? n = some choice ↔ choice.flag = n :=
  ⟨flag_eq_of_ofFlag?, fun h => h ▸ ofFlag?_flag choice⟩

theorem ofFlag_eq_ok_iff {n : Int} {choice : Customization} :
    ofFlag n = .ok choice ↔ choice.flag = n := by
  rw [ofFlag, ← ofFlag?_eq_some_iff]
  cases ofFlag? n <;> simp

end Customization

end ValueSchema

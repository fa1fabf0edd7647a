import ValueSchema.Decoding.Shape

/-!
# TOML values and tables

A document is a tree of tables.  A table remembers how it came about, because that decides how it
may be extended: by a header of its own, by a header of a table inside it, by a dotted key, or
written out in braces.
-/

namespace ValueSchema.Toml

/-- How messages about TOML lay out floating point numbers: a tie goes up, and every number is in
positional notation. -/
def numberLayout : Binary64.Layout where
  tie := .up
  positionalRange := none

/-- How a table came about. -/
inductive TableKind where
  /-- By a header, or as the document itself. -/
  | header
  /-- On the way to a table with a header. -/
  | implied
  /-- On the way along a dotted key. -/
  | dotted
  /-- In braces. -/
  | inline
  deriving DecidableEq

/-- A value of a document.  Of a date or time only its presence is kept. -/
inductive Value where
  | boolean (value : Bool)
  | integer (value : Int)
  | float (value : Binary64)
  | string (value : String)
  | dateTime
  | array (elements : List Value)
  | table (kind : TableKind) (entries : List (String × Value))
  /-- The tables of a doubly bracketed header, in order. -/
  | tables (elements : List (List (String × Value)))

def Value.shape : Value → Shape
  | boolean value => .boolean value
  | integer value => .integer value
  | float value => .float value
  | string value => .string value
  | dateTime => .map
  | array _ => .sequence
  | table _ _ => .map
  | tables _ => .sequence

/-- A table in the making. -/
structure Table where
  kind : TableKind
  entries : List (String × Value) := []

namespace Table

def toValue (table : Table) : Value := .table table.kind table.entries

def find? (table : Table) (key : String) : Option Value := OrderedMap.lookup key table.entries

/-- Sets an entry, in place if the key is there. -/
def put (table : Table) (key : String) (value : Value) : Table :=
  { table with entries := OrderedMap.put key value table.entries }

/-- Removes an entry; those after it move up. -/
def remove (table : Table) (key : String) : Table :=
  { table with entries := table.entries.filter fun entry => entry.1 ≠ key }

/-- Adds an entry under a key that is not yet there. -/
def add (table : Table) (key : String) (value : Value) : Option Table :=
  match table.find? key with
  | some _ => none
  | none => some (table.put key value)

/-- The way to a table leads through tables of this kind.  Tables in braces are closed; a dotted key
does not enter a table with a header either. -/
def admits (dotted : Bool) : TableKind → Bool
  | .inline => false
  | .header => !dotted
  | _ => true

/-- Changes the table at the end of a path, making the tables on the way that are not there.  An
array of tables stands for its last element. -/
def change {β : Type} (dotted : Bool) (act : Table → Option (β × Table)) :
    List String → Table → Option (β × Table)
  | [], table => act table
  | key :: path, table =>
    match table.find? key with
    | none => do
      let (result, child) ← change dotted act path ⟨if dotted then .dotted else .implied, []⟩
      some (result, table.put key child.toValue)
    | some (.table kind entries) => do
      if admits dotted kind then
        let (result, child) ← change dotted act path ⟨kind, entries⟩
        some (result, table.put key child.toValue)
      else none
    | some (.tables elements) => do
      let last ← elements.getLast?
      let (result, child) ← change dotted act path ⟨.header, last⟩
      some (result, table.put key (.tables (elements.dropLast ++ [child.entries])))
    | some _ => none

/-- Assigns a value to a dotted key.  The last table on the way must itself be made by dotted keys,
unless the key has one part only. -/
def assign (table : Table) (path : List String) (key : String) (value : Value) : Option Table :=
  let act (target : Table) : Option (Unit × Table) :=
    if target.kind = .dotted ↔ path = [] then none
    else (target.add key value).map ((), ·)
  (change true act path table).map Prod.snd

end Table

end ValueSchema.Toml

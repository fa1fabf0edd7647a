import ValueSchema.Toml.Scalar

/-!
# TOML documents

A document is a sequence of statements, one a line: an assignment to a dotted key, the header of a
table, or the header of an element of an array of tables.  The statements build the tables of the
document; a text with any fault reads as no document at all.

A table whose header comes after the header of a table inside it takes its place among its siblings
where its own header stands.
-/

namespace ValueSchema.Toml

def assignment (value : Reader Value) : Reader ((List String × String) × Value) := fun input => do
  let (name, rest) ← key input
  let rest ← Text.afterMark? ['='] rest
  let (assigned, rest) ← value (skipBlanks rest)
  some ((name, assigned), skipBlanks rest)

/-- Reads an element of an array with the gaps around it. -/
def element (value : Reader Value) : Reader Value := fun input => do
  let (read, rest) ← value (skipGaps input)
  some (read, skipGaps rest)

def afterComma {α : Type} (read : Reader α) : Reader α
  | ',' :: rest => read rest
  | _ => none

/-- Reads what stands between commas. -/
def separated {α : Type} (read : Reader α) (input : List Char) : List α × List Char :=
  match read input with
  | none => ([], input)
  | some (first, rest) =>
    let (others, rest) := Reader.many (afterComma read) rest
    (first :: others, rest)

/-- Reads an array after its opening bracket.  A comma may follow the last element. -/
def array (value : Reader Value) : Reader Value := fun input =>
  match separated (element value) input with
  | ([], _) => (Text.afterMark? [']'] (skipGaps input)).map (.array [], ·)
  | (elements, ',' :: rest) => (Text.afterMark? [']'] (skipGaps rest)).map (.array elements, ·)
  | (elements, rest) => (Text.afterMark? [']'] rest).map (.array elements, ·)

/-- The table in braces with the given assignments. -/
def inlineTable (assignments : List ((List String × String) × Value)) : Option Table :=
  assignments.foldlM (fun table ((path, name), value) => table.assign path name value)
    ⟨.inline, []⟩

/-- Reads a table after its opening brace.  No comma may follow the last assignment. -/
def braces (value : Reader Value) : Reader Value := fun input => do
  let (assignments, rest) := separated (assignment value) input
  let rest ← Text.afterMark? ['\x7d'] (skipBlanks rest)
  let table ← inlineTable assignments
  some (table.toValue, rest)

/-- Reads a value with at most so many arrays and tables inside one another. -/
def value : Nat → Reader Value
  | 0, input => scalar input
  | depth + 1, input =>
    match input with
    | '[' :: rest => array (value depth) rest
    | '\x7b' :: rest => braces (value depth) rest
    | input => scalar input

inductive Statement where
  | assign (path : List String) (key : String) (value : Value)
  | table (path : List String) (key : String)
  | element (path : List String) (key : String)

def statement : Reader Statement
  | '[' :: '[' :: rest => do
    let ((path, name), rest) ← key rest
    let rest ← Text.afterMark? [']', ']'] rest
    some (.element path name, rest)
  | '[' :: rest => do
    let ((path, name), rest) ← key rest
    let rest ← Text.afterMark? [']'] rest
    some (.table path name, rest)
  | input => do
    let (((path, name), assigned), rest) ← assignment (value (depthLimit - 1)) input
    some (.assign path name assigned, rest)

def lineEnd (input : List Char) : List Char := skipComment (skipBlanks input)

/-- A line without a statement ends here. -/
def isLineEnd : List Char → Bool
  | [] => true
  | c :: _ => c = '#' || c = '\n' || c = '\r'

/-- Reads a line up to its ending, with its statement if it has one. -/
def line : Reader (Option Statement) := fun input =>
  let input := skipBlanks input
  if isLineEnd input then some (none, lineEnd input)
  else (statement input).map fun (found, rest) => (some found, lineEnd rest)

/-- Reads at most so many lines; nothing may be left after them. -/
def lines : Nat → List Char → Option (List Statement)
  | 0, _ => none
  | count + 1, input => do
    let (found, rest) ← line input
    match rest with
    | [] => some found.toList
    | rest =>
      let others ← lines count (← newline rest)
      some (found.toList ++ others)

/-- The statements of a text, which may begin with a byte order mark. -/
def statements (text : List Char) : Option (List Statement) :=
  let text := if text.head? = some '\uFEFF' then text.tail else text
  lines (text.length + 1) text

/-- Where the table that statements assign to belongs in the document. -/
inductive Place where
  | root
  | table (path : List String) (key : String)
  | element (path : List String) (key : String)

/-- A document in the making: its tables, and the table that assignments go to. -/
structure Builder where
  root : Table := ⟨.header, []⟩
  place : Place := .root
  current : Table := ⟨.header, []⟩

namespace Builder

/-- Files the current table at its place.  A table goes last in its parent, an element last in its
array. -/
def close (b : Builder) : Option Table :=
  match b.place with
  | .root => some b.current
  | .table path key =>
    (Table.change false (fun parent => (parent.add key b.current.toValue).map ((), ·)) path
      b.root).map Prod.snd
  | .element path key =>
    let act (parent : Table) : Option (Unit × Table) :=
      match parent.find? key with
      | none => some ((), parent.put key (.tables [b.current.entries]))
      | some (.tables elements) =>
        some ((), parent.put key (.tables (elements ++ [b.current.entries])))
      | some _ => none
    (Table.change false act path b.root).map Prod.snd

/-- Takes the table that a header names out of its parent, if it has only been implied so far. -/
def takeTable (key : String) (parent : Table) : Option (List (String × Value) × Table) :=
  match parent.find? key with
  | none => some ([], parent)
  | some (.table .implied entries) => some (entries, parent.remove key)
  | some _ => none

/-- Makes sure that a header names an array of tables. -/
def takeElement (key : String) (parent : Table) : Option (Unit × Table) :=
  match parent.find? key with
  | none => some ((), parent.put key (.tables []))
  | some (.tables _) => some ((), parent)
  | some _ => none

def step (b : Builder) : Statement → Option Builder
  | .assign path key value => do
    let current ← b.current.assign path key value
    some { b with current := current }
  | .table path key => do
    let root ← b.close
    let (entries, root) ← Table.change false (takeTable key) path root
    some ⟨root, .table path key, ⟨.header, entries⟩⟩
  | .element path key => do
    let root ← b.close
    let ((), root) ← Table.change false (takeElement key) path root
    some ⟨root, .element path key, ⟨.header, []⟩⟩

end Builder

/-- The root table that statements build. -/
def document (statements : List Statement) : Option Table := do
  let b ← statements.foldlM Builder.step {}
  b.close

/-- Reads a document: the entries of its root table in order. -/
def read? (text : String) : Option (List (String × Value)) := do
  let found ← statements text.toList
  let root ← document found
  some root.entries

end ValueSchema.Toml

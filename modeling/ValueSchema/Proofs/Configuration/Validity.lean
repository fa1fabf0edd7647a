import Mathlib.Logic.Basic
import ValueSchema.Configuration.Basic

/-!
# Faults of configurations

A configuration is valid when its namespace is a qualified name and the name and the version of the
generator have some text.  The main statement, `fault?_eq_some_iff`, says which fault is found: that
of the namespace before that of the name, and that of the name before that of the version.
-/

namespace ValueSchema.Configuration

variable {c : Configuration}

def NamespaceIsName (c : Configuration) : Prop :=
  ∀ text, c.enclosingNamespace = some text → CSharp.isQualifiedName text = true

/-- The name of the generator, if there is one, has a character that is no white space. -/
def NameHasText (c : Configuration) : Prop :=
  ∀ text, c.generatorName = some text → ∃ char ∈ text.toList, Unicode.isWhiteSpace char = false

/-- The version of the generator, if there is one, has a character that is no white space. -/
def VersionHasText (c : Configuration) : Prop :=
  ∀ text, c.generatorVersion = some text → ∃ char ∈ text.toList, Unicode.isWhiteSpace char = false

theorem isBlank_eq_false_iff {text : String} :
    Unicode.isBlank text = false ↔ ∃ char ∈ text.toList, Unicode.isWhiteSpace char = false := by
  rw [Unicode.isBlank, List.all_eq_false]
  simp only [Bool.not_eq_true]

theorem filter_isBlank_eq_none_iff {found : Option String} :
    found.filter Unicode.isBlank = none ↔
      ∀ text, found = some text → ∃ char ∈ text.toList, Unicode.isWhiteSpace char = false := by
  rw [Option.filter_eq_none_iff]
  refine forall₂_congr fun text _ => ?_
  rw [Bool.not_eq_true, isBlank_eq_false_iff]

theorem filter_notName_eq_none_iff :
    (c.enclosingNamespace.filter fun text => !CSharp.isQualifiedName text) = none ↔
      c.NamespaceIsName := by
  rw [Option.filter_eq_none_iff]
  refine forall₂_congr fun text _ => ?_
  simp

/-- The fault that is found is the first in the order of namespace, name and version. -/
theorem fault?_eq_some_iff {error : ConfigurationError} :
    c.fault? = some error ↔
      (∃ text, c.enclosingNamespace = some text ∧ CSharp.isQualifiedName text = false ∧
        error = .invalidNamespace text) ∨
      (c.NamespaceIsName ∧ ¬ c.NameHasText ∧ error = .blank .generatorName) ∨
      (c.NamespaceIsName ∧ c.NameHasText ∧ ¬ c.VersionHasText ∧
        error = .blank .generatorVersion) := by
  have hnamespace (text : String) :
      c.enclosingNamespace.filter (fun text => !CSharp.isQualifiedName text) = some text ↔
        c.enclosingNamespace = some text ∧ CSharp.isQualifiedName text = false := by
    rw [Option.filter_eq_some_iff, Bool.not_eq_true']
  simp only [← and_assoc, ← hnamespace, ← filter_notName_eq_none_iff, NameHasText, VersionHasText,
    ← filter_isBlank_eq_none_iff]
  unfold fault?
  cases c.enclosingNamespace.filter fun text => !CSharp.isQualifiedName text with
  | some text => simp [eq_comm (a := error)]
  | none =>
      cases c.generatorName.filter Unicode.isBlank with
      | some name => simp [eq_comm (a := error)]
      | none =>
          cases c.generatorVersion.filter Unicode.isBlank with
          | some version => simp [eq_comm (a := error)]
          | none => simp

theorem isValid_iff_hasText :
    c.IsValid ↔ c.NamespaceIsName ∧ c.NameHasText ∧ c.VersionHasText := by
  simp only [isValid_iff, isBlank_eq_false_iff]
  rfl

end ValueSchema.Configuration

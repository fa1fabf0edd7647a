import ValueSchema.CSharp.Name
import ValueSchema.Decoding.Error
import ValueSchema.Toml.Value

/-!
# Configuration of the synthesis

A project states once which source it wants and how the source is presented.  Every setting is
optional.  A configuration is valid when its namespace is a qualified name and neither the name nor
the version of the generator is blank; the first fault in this order is the one reported.
-/

namespace ValueSchema

/-- The settings of a configuration. -/
inductive Setting where
  | customization
  | enclosingNamespace
  | generatorName
  | generatorVersion
  deriving DecidableEq

namespace Setting

def all : List Setting := [customization, enclosingNamespace, generatorName, generatorVersion]

def name : Setting → String
  | customization => "customizations"
  | enclosingNamespace => "namespace"
  | generatorName => "generator_name"
  | generatorVersion => "generator_version"

end Setting

/-- The choices of a project. -/
@[ext]
structure Configuration where
  customization : Option Customization := none
  /-- The namespace around the synthesized class. -/
  enclosingNamespace : Option String := none
  /-- The tool named in the attribute of the synthesized class. -/
  generatorName : Option String := none
  generatorVersion : Option String := none
  deriving DecidableEq, Inhabited

/-- A reason why a configuration is refused. -/
inductive ConfigurationError where
  | malformed
  /-- A key or value of the document does not decode. -/
  | undecodable (cause : DecodeError)
  | unknownCustomization (cause : UnknownCustomization)
  | invalidNamespace (text : String)
  | blank (setting : Setting)
  deriving DecidableEq

namespace ConfigurationError

def message : ConfigurationError → String
  | malformed => "invalid configuration: the text is no TOML document"
  | undecodable cause => "invalid configuration: " ++ cause.wording Toml.numberLayout
  | unknownCustomization cause => cause.message
  | invalidNamespace text => "invalid namespace: " ++ Text.quoted text
  | blank setting => setting.name ++ " must not be empty"

end ConfigurationError

namespace Configuration

/-- The version that stands for a generator named without one. -/
def defaultVersion : String := "0.1.0"

/-- The configuration with a customization and nothing else. -/
def ofCustomization (choice : Customization) : Configuration :=
  { customization := some choice }

/-- The customization in force: nothing is synthesized unless the project asks for it. -/
def effective (c : Configuration) : Customization := c.customization.getD .disabled

/-- The name and version of the generator, if it is named. -/
def identity? (c : Configuration) : Option (String × String) :=
  c.generatorName.map fun name => (name, c.generatorVersion.getD defaultVersion)

/-- The first fault of a configuration. -/
def fault? (c : Configuration) : Option ConfigurationError :=
  let badNamespace := c.enclosingNamespace.filter fun text => !CSharp.isQualifiedName text
  let blankName := c.generatorName.filter Unicode.isBlank
  let blankVersion := c.generatorVersion.filter Unicode.isBlank
  match badNamespace, blankName, blankVersion with
  | some text, _, _ => some (.invalidNamespace text)
  | none, some _, _ => some (.blank .generatorName)
  | none, none, some _ => some (.blank .generatorVersion)
  | none, none, none => none

def IsValid (c : Configuration) : Prop := c.fault? = none

instance (c : Configuration) : Decidable c.IsValid := inferInstanceAs (Decidable (_ = none))

/-- The configuration itself if it is valid, its first fault otherwise. -/
def validated (c : Configuration) : Except ConfigurationError Configuration :=
  match c.fault? with
  | some error => .error error
  | none => .ok c

/-- Sets the namespace, and checks the result. -/
def withNamespace (c : Configuration) (text : String) :
    Except ConfigurationError Configuration :=
  validated { c with enclosingNamespace := some text }

/-- Sets the name and version of the generator, and checks the result. -/
def withGenerator (c : Configuration) (name version : String) :
    Except ConfigurationError Configuration :=
  validated { c with generatorName := some name, generatorVersion := some version }

theorem isValid_iff {c : Configuration} :
    c.IsValid ↔
      (∀ text, c.enclosingNamespace = some text → CSharp.isQualifiedName text = true) ∧
      (∀ text, c.generatorName = some text → Unicode.isBlank text = false) ∧
      (∀ text, c.generatorVersion = some text → Unicode.isBlank text = false) := by
  obtain ⟨_, text, name, version⟩ := c
  cases text <;> cases name <;> cases version <;>
    simp only [IsValid, fault?, Option.filter] <;> grind

theorem isValid_default : (default : Configuration).IsValid := by decide

theorem isValid_ofCustomization (choice : Customization) : (ofCustomization choice).IsValid := by
  simp [isValid_iff, ofCustomization]

theorem validated_eq_ok_iff {c d : Configuration} :
    c.validated = .ok d ↔ c.IsValid ∧ d = c := by
  cases h : c.fault? <;> simp [validated, IsValid, h, eq_comm]

theorem validated_eq_error_iff {c : Configuration} {error : ConfigurationError} :
    c.validated = .error error ↔ c.fault? = some error := by
  cases h : c.fault? <;> simp [validated, h]

end Configuration

end ValueSchema

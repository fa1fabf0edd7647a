import ValueSchema.CSharp.Literal
import ValueSchema.Configuration.Basic
import ValueSchema.Text.Lines

/-!
# Compilation units

The frame of every piece of synthesized C# source: a fixed preamble, then one declaration, inside a
namespace if the configuration names one.  The declaration is a class, under an attribute if the
configuration names a generator.  In a namespace each of its lines is indented by one step.
-/

namespace ValueSchema.Source

/-- The lines at the head of every unit. -/
def preambleLines : List String :=
  ["// ------------------------------------------------------------------------------",
   "// <auto-generated>",
   "//     This code was generated by a source generator.",
   "//",
   "//     Changes to this file may cause incorrect behavior and will be lost if",
   "//     the code is regenerated.",
   "// </auto-generated>",
   "// ------------------------------------------------------------------------------",
   "",
   "// Suppress warnings about [Obsolete] member usage in generated code.",
   "#pragma warning disable CS0618",
   "",
   "// Suppress warnings for 'Override methods on comparable types'.",
   "#pragma warning disable CA1036",
   "",
   "// Suppress Error MA0097 : A class that implements IComparable<T> or IComparable should " ++
     "override comparison operators",
   "#pragma warning disable MA0097",
   "",
   "// Suppress warning for 'The annotation for nullable reference types should only be used in " ++
     "code within a '#nullable' annotations context. Auto-generated code requires an explicit " ++
     "'#nullable' directive in source.'",
   "// The generator copies signatures from the BCL, e.g. for `TryParse`, and some of those " ++
     "have nullable annotations.",
   "#pragma warning disable CS8669",
   "",
   "// Suppress warnings about CS1591: Missing XML comment for publicly visible type or member " ++
     "'Type_or_Member'",
   "#pragma warning disable CS1591",
   "",
   "#nullable enable"]

def preamble : String := Text.unlines preambleLines

def tab : String := "    "

/-- The attribute that names the generator of a class. -/
def attributeLine (name version : String) : String :=
  "[global::System.CodeDom.Compiler.GeneratedCode(" ++ CSharp.literal name ++ ", " ++
    CSharp.literal version ++ ")]"

/-- A class under the attribute that the configuration asks for. -/
def declaration (c : Configuration) (classText : String) : String :=
  match c.identity? with
  | some (name, version) => attributeLine name version ++ "\n" ++ classText
  | none => classText

/-- A text with each of its lines indented. -/
def indented (indent text : String) : String :=
  String.ofList (Text.indentLines indent.toList text.toList)

def compilationUnit (c : Configuration) (classText : String) : String :=
  preamble ++ "\n" ++
    match c.enclosingNamespace with
    | some name =>
      "namespace " ++ name ++ "\n\x7b\n" ++ indented tab (declaration c classText) ++ "\x7d\n"
    | none => indented "" (declaration c classText)

@[simp] theorem toList_indented (indent text : String) :
    (indented indent text).toList = Text.indentLines indent.toList text.toList := by
  simp [indented]

end ValueSchema.Source

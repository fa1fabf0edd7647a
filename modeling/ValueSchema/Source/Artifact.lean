import ValueSchema.Customization

/-!
# Source artifacts

The two kinds of synthesized source, and a finished piece of source, which is filed under a name
that depends on its kind alone.
-/

namespace ValueSchema

inductive ArtifactKind where
  | schemaFilter
  | mappingExtension
  deriving DecidableEq, Inhabited

namespace ArtifactKind

/-- The name under which source of this kind is filed. -/
def fileName : ArtifactKind → String
  | schemaFilter => "SwashbuckleSchemaFilter_g.cs"
  | mappingExtension => "SwashbuckleSchemaExtensions_g.cs"

/-- The class that source of this kind declares. -/
def className : ArtifactKind → String
  | schemaFilter => "VogenSchemaFilter"
  | mappingExtension => "VogenSwashbuckleExtensions"

/-- What a log entry calls the kind. -/
def title : ArtifactKind → String
  | schemaFilter => "schema filter"
  | mappingExtension => "mapping extension"

theorem fileName_inj {left right : ArtifactKind} :
    left.fileName = right.fileName ↔ left = right := by
  cases left <;> cases right <;> decide

end ArtifactKind

/-- The kind of source that a customization asks for. -/
def Customization.artifactKind? : Customization → Option ArtifactKind
  | .disabled => none
  | .schemaFilter => some .schemaFilter
  | .mappingExtension => some .mappingExtension

/-- A finished piece of source. -/
structure Artifact where
  kind : ArtifactKind
  text : String
  deriving DecidableEq, Inhabited

namespace Artifact

def name (artifact : Artifact) : String := artifact.kind.fileName

end Artifact

end ValueSchema

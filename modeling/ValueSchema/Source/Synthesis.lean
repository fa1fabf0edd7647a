import ValueSchema.Source.FilterClass
import ValueSchema.Source.MappingClass

/-!
# Synthesis

From a configuration, a compilation and the work items to at most one artifact.  Nothing is
synthesized unless the configuration asks for it and the compilation references the schema
framework.  The artifact depends on nothing else, and equal inputs give equal text.
-/

namespace ValueSchema.Source

def artifact (kind : ArtifactKind) (c : Configuration) (items : List WorkItem) : Logged Artifact :=
  match kind with
  | .schemaFilter => pure (filterArtifact c)
  | .mappingExtension => mappingArtifact c items

/-- Synthesizes the artifact that a configuration asks for; without a configuration there is
none. -/
def synthesize {τ : Type} [SymbolTable τ] (c? : Option Configuration) (symbols : τ)
    (items : List WorkItem) : Logged (Option Artifact) :=
  let c := c?.getD default
  match c.effective.artifactKind? with
  | none => pure none
  | some kind =>
    if referencesFramework symbols then do
      let made ← artifact kind c items
      Logged.record (.synthesized kind items.length made.text.utf8ByteSize)
      return some made
    else do
      Logged.record (.frameworkMissing kind)
      return none

end ValueSchema.Source

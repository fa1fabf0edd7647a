import ValueSchema.Source.Synthesis

/-!
# Histories of artifacts

A host collects the artifacts of its runs in order.  A run appends the artifact that it synthesizes,
if any, and changes nothing else.
-/

namespace ValueSchema.Source

/-- The artifacts of past runs, the oldest first. -/
structure History where
  artifacts : List Artifact := []
  deriving DecidableEq, Inhabited

namespace History

def push (history : History) (artifact : Artifact) : History :=
  ⟨history.artifacts ++ [artifact]⟩

/-- The text of the oldest artifact filed under a name. -/
def get? (history : History) (name : String) : Option String :=
  (history.artifacts.find? fun artifact => artifact.name == name).map Artifact.text

def isEmpty (history : History) : Bool := history.artifacts.isEmpty

def names (history : History) : List String := history.artifacts.map Artifact.name

/-- The history after a run, with whether the run appended an artifact. -/
def run {τ : Type} [SymbolTable τ] (history : History) (c? : Option Configuration) (symbols : τ)
    (items : List WorkItem) : Logged (Bool × History) := do
  match ← synthesize c? symbols items with
  | some artifact => return (true, history.push artifact)
  | none => return (false, history)

end History

end ValueSchema.Source

import ValueSchema.Configuration.Decoding
import ValueSchema.Toml.Document

/-!
# Configuration documents

A configuration is loaded from a TOML document in three stages: the text is read, the entries of its
root table are decoded, and the result is validated.  The first stage that fails decides the error.
-/

namespace ValueSchema.Configuration

def ofEntries (entries : List (String × Toml.Value)) : Except ConfigurationError Configuration :=
  match ofMembers (entries.map fun entry => (entry.1, entry.2.shape)) with
  | .ok c => c.validated
  | .error cause => .error (.undecodable cause)

/-- Loads a configuration from a text, given a reader of its entries. -/
def load (read? : String → Option (List (String × Toml.Value))) (text : String) :
    Except ConfigurationError Configuration :=
  match read? text with
  | some entries => ofEntries entries
  | none => .error .malformed

def ofToml (text : String) : Except ConfigurationError Configuration := load Toml.read? text

/-- What is loaded is valid. -/
theorem isValid_of_load
    {read? : String → Option (List (String × Toml.Value))} {text : String} {c : Configuration}
    (h : load read? text = .ok c) :
    c.IsValid := by
  unfold load ofEntries at h
  split at h
  · split at h
    · rw [validated_eq_ok_iff] at h
      exact h.2 ▸ h.1
    · cases h
  · cases h

end ValueSchema.Configuration

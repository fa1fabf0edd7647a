import ValueSchema.Property.Surface

/-!
# Copying properties

The properties of one object are copied over those of another in two phases.  The first goes through
the properties of the destination and reads, for each, the value of the source; the second writes
the values in the same order.  An error in either phase leaves the destination as it was.
-/

namespace ValueSchema

variable {σ : Type} [PropertySurface σ]

open PropertySurface

/-- The values to be written: one for each property that is readable on the source and writable on
the destination.  Every property of the destination must exist on the source. -/
def plannedWrites (source : σ) : List Descriptor → Except FilterError (List (String × Json))
  | [] => .ok []
  | target :: rest =>
    match property? source target.name with
    | none => .error (.missingProperty target.name)
    | some origin =>
      if origin.readable && target.writable then
        match get? source origin.name with
        | none => .error (.missingProperty origin.name)
        | some value => (plannedWrites source rest).map ((target.name, value) :: ·)
      else plannedWrites source rest

/-- Writes values in turn, up to the first that is refused. -/
def writeAll (object : σ) : List (String × Json) → Except FilterError σ
  | [] => .ok object
  | (name, value) :: rest =>
    match set object name value with
    | .ok next => writeAll next rest
    | .error error => .error error

/-- Copies the properties of a source over a destination; the result tells how many were written. -/
def copyProperties (source destination : σ) : Except FilterError (Nat × σ) :=
  match plannedWrites source (properties destination) with
  | .error error => .error error
  | .ok writes => (writeAll destination writes).map (writes.length, ·)

theorem writeAll_append (object : σ) (first second : List (String × Json)) :
    writeAll object (first ++ second) =
      (writeAll object first).bind fun next => writeAll next second := by
  induction first generalizing object with
  | nil => rfl
  | cons write rest ih =>
    obtain ⟨name, value⟩ := write
    simp only [List.cons_append, writeAll]
    cases set object name value with
    | ok next => exact ih next
    | error error => rfl

end ValueSchema

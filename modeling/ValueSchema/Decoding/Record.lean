import ValueSchema.Decoding.Error

/-!
# Decoding of records

A record is written either as named members or as a sequence of its fields in the order of their
declaration.  Both forms assign one field after the other and stop at the first failure, so a
sequence means the same as the members that name its fields in turn.
-/

namespace ValueSchema

/-- How a record with fields `φ` takes values `ν`: its fields in the order of declaration, their
names, what becomes of a name that is no field, and the assignment of a field. -/
structure RecordFormat (φ ν ρ : Type) where
  fields : List φ
  name : φ → String
  /-- The error for a name that is no field, or `none` if such names are passed over. -/
  unknown : String → Option DecodeError
  assign : φ → ν → ρ → Except DecodeError ρ

namespace RecordFormat

variable {φ ν ρ : Type}

def field? (format : RecordFormat φ ν ρ) (name : String) : Option φ :=
  format.fields.find? fun field => format.name field == name

def takeMember (format : RecordFormat φ ν ρ) (record : ρ) (member : String × ν) :
    Except DecodeError ρ :=
  match format.field? member.1 with
  | some field => format.assign field member.2 record
  | none =>
    match format.unknown member.1 with
    | some error => .error error
    | none => .ok record

/-- Takes named members in turn. -/
def takeMembers (format : RecordFormat φ ν ρ) (record : ρ) :
    List (String × ν) → Except DecodeError ρ
  | [] => .ok record
  | member :: rest =>
    match format.takeMember record member with
    | .ok next => takeMembers format next rest
    | .error error => .error error

/-- Takes a sequence of values, the first for the first field and so on.  `total` is the length of
the whole sequence. -/
def takeFields (format : RecordFormat φ ν ρ) (total : Nat) :
    List φ → ρ → List ν → Except DecodeError ρ
  | _, record, [] => .ok record
  | [], _, _ :: _ => .error (.tooLong total)
  | field :: fields, record, value :: rest =>
    match format.assign field value record with
    | .ok next => takeFields format total fields next rest
    | .error error => .error error

def takeSequence (format : RecordFormat φ ν ρ) (record : ρ) (values : List ν) :
    Except DecodeError ρ :=
  takeFields format values.length format.fields record values

def names (format : RecordFormat φ ν ρ) : List String := format.fields.map format.name

theorem takeMembers_append (format : RecordFormat φ ν ρ) (record : ρ)
    (first second : List (String × ν)) :
    format.takeMembers record (first ++ second) =
      (format.takeMembers record first).bind fun next => format.takeMembers next second := by
  induction first generalizing record with
  | nil => rfl
  | cons member rest ih =>
    simp only [List.cons_append, takeMembers]
    cases format.takeMember record member with
    | ok next => exact ih next
    | error error => rfl

/-- A sequence that is not too long means the same as the members that name its fields. -/
theorem takeFields_eq_takeMembers (format : RecordFormat φ ν ρ) (total : Nat)
    (hfind : ∀ field ∈ format.fields, format.field? (format.name field) = some field) :
    ∀ (fields : List φ) (record : ρ) (values : List ν),
      (∀ field ∈ fields, field ∈ format.fields) → values.length ≤ fields.length →
      format.takeFields total fields record values =
        format.takeMembers record ((fields.map format.name).zip values) := by
  intro fields
  induction fields with
  | nil =>
    intro record values _ hlength
    have : values = [] := List.length_eq_zero_iff.mp (Nat.le_zero.mp hlength)
    subst this
    rfl
  | cons field fields ih =>
    intro record values hmem hlength
    cases values with
    | nil => rfl
    | cons value rest =>
      have hfield := hfind field (hmem field (by simp))
      simp only [takeFields, List.map_cons, List.zip_cons_cons, takeMembers, takeMember, hfield]
      cases format.assign field value record with
      | error error => rfl
      | ok next =>
        exact ih next rest (fun other h => hmem other (List.mem_cons_of_mem _ h))
          (Nat.le_of_succ_le_succ hlength)

end RecordFormat

end ValueSchema

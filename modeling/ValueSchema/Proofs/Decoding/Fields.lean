import ValueSchema.Decoding.Record
import ValueSchema.OrderedMap

/-!
# Records decoded field by field

In most formats a value decodes to a content of its field, whatever the record holds so far, and
takes the place of the old content.  Such a format is fieldwise.  Members whose keys are unique then
decode to one record, in whatever order they come: the one that holds in each field what its own
member decodes to.
-/

namespace ValueSchema.RecordFormat

variable {φ ν ρ : Type} {κ : φ → Type} {format : RecordFormat φ ν ρ}

/-- A content that starts as one thing and may meet a value ends as what the value decodes to, if
there is one. -/
def Reads {γ : Type} (decode : ν → Except DecodeError γ) (start : γ) : Option ν → γ → Prop
  | none, found => found = start
  | some value, found => decode value = .ok found

/-- The contents of the fields of a record, and how an assignment changes one of them. -/
structure Fieldwise (format : RecordFormat φ ν ρ) (κ : φ → Type) where
  content : ρ → (field : φ) → κ field
  replace : ρ → (field : φ) → κ field → ρ
  /-- What a value decodes to as the content of a field. -/
  decode : (field : φ) → ν → Except DecodeError (κ field)
  assign_eq_map : ∀ field value record,
    format.assign field value record = (decode field value).map (replace record field)
  content_replace_self : ∀ record field found, content (replace record field found) field = found
  content_replace_of_ne : ∀ record {field other} found, other ≠ field →
    content (replace record field found) other = content record other
  /-- Two records are equal when they hold the same in every field. -/
  ext_content : ∀ {left right}, (∀ field, content left field = content right field) → left = right
  field?_name : ∀ field, format.field? (format.name field) = some field

theorem name_eq_of_field?_eq_some
    {key : String} {field : φ} (h : format.field? key = some field) :
    format.name field = key := by
  have hfound := List.find?_some h
  simpa using hfound

namespace Fieldwise

variable (fields : format.Fieldwise κ)
include fields

theorem name_ne_of_field?_eq_none
    {key : String} (h : format.field? key = none) (field : φ) :
    format.name field ≠ key := by
  intro hkey
  rw [← hkey, fields.field?_name] at h
  cases h

theorem name_inj
    {left right : φ} (h : format.name left = format.name right) :
    left = right := by
  have hfound := fields.field?_name left
  rw [h, fields.field?_name] at hfound
  exact (Option.some.inj hfound).symm

theorem takeMember_of_field?_eq_some
    {key : String} {field : φ} (h : format.field? key = some field) (record : ρ) (value : ν) :
    format.takeMember record (key, value) =
      (fields.decode field value).map (fields.replace record field) := by
  simp only [takeMember, h]
  exact fields.assign_eq_map field value record

theorem takeMembers_singleton (record : ρ) (field : φ) (value : ν) :
    format.takeMembers record [(format.name field, value)] =
      (fields.decode field value).map (fields.replace record field) := by
  rw [takeMembers, fields.takeMember_of_field?_eq_some (fields.field?_name field)]
  cases fields.decode field value <;> rfl

theorem reads_cons_of_field?_eq_none
    {key : String} (h : format.field? key = none) (value : ν) (rest : List (String × ν))
    (field : φ) (start found : κ field) :
    Reads (fields.decode field) start
        (OrderedMap.lookup (format.name field) ((key, value) :: rest)) found ↔
      Reads (fields.decode field) start (OrderedMap.lookup (format.name field) rest) found := by
  rw [OrderedMap.lookup, if_neg (Ne.symm (fields.name_ne_of_field?_eq_none h field))]

/-- A member that decodes may be taken before the others or read among them. -/
theorem reads_cons_of_decode
    {key : String} {named : φ} {value : ν} {decoded : κ named} {rest : List (String × ν)}
    (hkey : format.field? key = some named) (hvalue : fields.decode named value = .ok decoded)
    (hrest : key ∉ rest.map Prod.fst) (start : ρ) (field : φ) (found : κ field) :
    Reads (fields.decode field) (fields.content start field)
        (OrderedMap.lookup (format.name field) ((key, value) :: rest)) found ↔
      Reads (fields.decode field) (fields.content (fields.replace start named decoded) field)
        (OrderedMap.lookup (format.name field) rest) found := by
  have hname := name_eq_of_field?_eq_some hkey
  rw [OrderedMap.lookup]
  by_cases hfield : field = named
  · subst hfield
    have hnone : OrderedMap.lookup (format.name field) rest = none := by
      rwa [OrderedMap.lookup_eq_none_iff, hname]
    rw [hnone, if_pos hname.symm, fields.content_replace_self]
    simp only [Reads, hvalue, Except.ok.injEq]
    exact eq_comm
  · have hother : key ≠ format.name field := by
      rw [← hname]
      exact fun h => hfield (fields.name_inj h.symm)
    rw [if_neg hother, fields.content_replace_of_ne start decoded hfield]

/-- Members whose keys are unique are taken field by field, in whatever order they come. -/
theorem takeMembers_eq_ok_iff
    {members : List (String × ν)} (hnodup : (members.map Prod.fst).Nodup) {start s : ρ} :
    format.takeMembers start members = .ok s ↔
      (∀ member ∈ members, format.field? member.1 = none → format.unknown member.1 = none) ∧
        ∀ field, Reads (fields.decode field) (fields.content start field)
          (OrderedMap.lookup (format.name field) members) (fields.content s field) := by
  induction members generalizing start with
  | nil =>
      constructor
      · intro h
        rw [← Except.ok.inj h]
        exact ⟨fun member hmember => absurd hmember List.not_mem_nil, fun field => rfl⟩
      · rintro ⟨-, h⟩
        exact congrArg Except.ok (fields.ext_content fun field => (h field).symm)
  | cons member rest ih =>
      obtain ⟨key, value⟩ := member
      rw [List.map_cons, List.nodup_cons] at hnodup
      obtain ⟨hrest, hnodup⟩ := hnodup
      rw [List.forall_mem_cons, takeMembers]
      cases hkey : format.field? key with
      | none =>
          simp only [fields.reads_cons_of_field?_eq_none hkey]
          cases hunknown : format.unknown key with
          | none => simp [takeMember, hkey, hunknown, ih hnodup]
          | some error => simp [takeMember, hkey, hunknown]
      | some named =>
          rw [fields.takeMember_of_field?_eq_some hkey]
          cases hvalue : fields.decode named value with
          | error error =>
              constructor
              · intro h
                cases h
              · rintro ⟨-, h⟩
                have hnamed := h named
                rw [OrderedMap.lookup, if_pos (name_eq_of_field?_eq_some hkey).symm, Reads,
                  hvalue] at hnamed
                cases hnamed
          | ok decoded =>
              simp only [fields.reads_cons_of_decode hkey hvalue hrest]
              refine (ih hnodup).trans (and_congr_left' ?_)
              simp

end Fieldwise

end ValueSchema.RecordFormat

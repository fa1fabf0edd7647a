import ValueSchema.Proofs.Attempts
import ValueSchema.Proofs.Property.ObjectCopy
import ValueSchema.Proofs.Schema.Canonical
import ValueSchema.Proofs.Schema.Copy

/-!
# Writes in turn

Values may be written one after the other under any names, and a write that is refused leaves the
object as it was.  Whether a write is accepted depends on the write alone, and it then changes what
is read under its own name and under no other.  So each property is in the end what the last
accepted write under its name has made it, and all that was not written stays.
-/

namespace ValueSchema

open PropertySurface

/-! ## Runs of writes -/

section Runs

variable {σ : Type} [PropertySurface σ]

def attemptWrite (object : σ) (write : String × Json) : Except FilterError σ :=
  set object write.1 write.2

/-- The object after the writes have been attempted in turn. -/
def afterWrites (object : σ) (writes : List (String × Json)) : σ :=
  Attempts.run attemptWrite object writes

/-- Those of the writes that are accepted when they are attempted in turn. -/
def acceptedWrites (object : σ) (writes : List (String × Json)) : List (String × Json) :=
  Attempts.accepted attemptWrite object writes

def valueUnder? (name : String) (write : String × Json) : Option Json :=
  if write.1 = name then some write.2 else none

/-- The value of the last of the writes under a name. -/
def lastValue? (name : String) (writes : List (String × Json)) : Option Json :=
  (writes.filterMap (valueUnder? name)).getLast?

/-- The writes do not interfere.  Exactly those that are admitted are accepted, and under each name
the last accepted value is read, in the form in which it reads back, or what was there at the start.
A write that is refused leaves the object as it was. -/
structure WritesIndependently (object : σ) (writes : List (String × Json))
    (admits : String × Json → Bool) (readBack : String → Json → Json) : Prop where
  acceptedWrites_eq : acceptedWrites object writes = writes.filter admits
  get?_afterWrites : ∀ name, get? (afterWrites object writes) name =
    ((lastValue? name (acceptedWrites object writes)).map (readBack name)).or (get? object name)
  afterWrites_of_refused : ∀ before write later error, writes = before ++ write :: later →
    attemptWrite (afterWrites object before) write = .error error →
    afterWrites object (before ++ [write]) = afterWrites object before

/-- Writes do not interfere if each is accepted for what it writes and changes its own property
only. -/
theorem writesIndependently_of_step
    {writes : List (String × Json)} {admits : String × Json → Bool}
    {readBack : String → Json → Json}
    (haccept : ∀ (current : σ) (write : String × Json),
      (∃ next, attemptWrite current write = .ok next) ↔ admits write = true)
    (hread : ∀ write ∈ writes, ∀ current next : σ, attemptWrite current write = .ok next →
      ∀ name, get? next name =
        if name = write.1 then some (readBack name write.2) else get? current name)
    (object : σ) :
    WritesIndependently object writes admits readBack where
  acceptedWrites_eq :=
    Attempts.accepted_eq_filter (P := fun _ => True) (fun _ _ _ _ _ => trivial)
      (fun current write _ => haccept current write) trivial writes
  get?_afterWrites name := by
    let view (current : σ) : Option Json := get? current name
    have hview : ∀ write ∈ writes, ∀ current next : σ, attemptWrite current write = .ok next →
        view next = ((valueUnder? name write).map (readBack name)).or (view current) := by
      intro write hwrite current next hnext
      have hnext := hread write hwrite current next hnext name
      rw [valueUnder?]
      by_cases hname : name = write.1
      · rw [if_pos hname] at hnext
        rwa [if_pos hname.symm, Option.map_some, Option.some_or]
      · rw [if_neg hname] at hnext
        rwa [if_neg (Ne.symm hname), Option.map_none, Option.none_or]
    exact Attempts.view_run_eq_or hview object
  afterWrites_of_refused before write later error _ herror := by
    rw [afterWrites, Attempts.run_concat]
    exact congrArg (Attempts.settle _) herror

end Runs

/-! ## Writes to objects -/

namespace JsonObject

variable {object next : JsonObject} {name : String} {value : Json}

def admits (write : String × Json) : Bool := decide (write.1 ∈ schemaKeywords)

theorem set_eq_ok_iff :
    set object name value = .ok next ↔ name ∈ schemaKeywords ∧ next = object.store name value := by
  by_cases hname : name ∈ schemaKeywords
  · rw [set_of_mem object hname, Except.ok.injEq, and_iff_right hname, eq_comm]
  · have hrefused : ∃ error, write object name value = .error error := by
      by_cases hreference : name = referenceKeyword
      · exact ⟨_, by rw [write, descriptor?, if_pos hreference]; rfl⟩
      · exact ⟨_, by rw [write, descriptor?, if_neg hreference, if_neg hname]⟩
    obtain ⟨error, herror⟩ := hrefused
    change write object name value = .ok next ↔ _
    simp [herror, hname]

theorem attemptWrite_accepts_iff (object : JsonObject) (write : String × Json) :
    (∃ next, attemptWrite object write = .ok next) ↔ admits write = true := by
  simp [attemptWrite, set_eq_ok_iff, admits]

theorem get?_congr
    {left right : JsonObject} (h : left.get? name = right.get? name) :
    PropertySurface.get? left name = PropertySurface.get? right name := by
  change read left name = read right name
  rw [read, read, h]

theorem eq_null_of_isNull (h : value.isNull = true) : value = .null := by
  cases value with
  | null => rfl
  | _ => cases h

/-- A value that was written reads back as it was; one that is `null` has removed the keyword. -/
theorem get?_of_set
    (h : set object name value = .ok next) (key : String) :
    PropertySurface.get? next key =
      if key = name then some value else PropertySurface.get? object key := by
  obtain ⟨hname, rfl⟩ := set_eq_ok_iff.mp h
  by_cases hkey : key = name
  · subst hkey
    rw [if_pos rfl, get?_of_mem _ hname, get?_store, if_pos rfl]
    cases hnull : value.isNull with
    | true => rw [eq_null_of_isNull hnull]; rfl
    | false => rfl
  · rw [if_neg hkey]
    exact get?_congr (by rw [get?_store, if_neg hkey])

theorem get?_afterWrites_of_not_mem
    (object : JsonObject) (writes : List (String × Json)) {key : String}
    (hkey : key ∉ schemaKeywords) :
    (afterWrites object writes).get? key = object.get? key := by
  refine Attempts.view_run_of_kept (fun current : JsonObject => current.get? key) ?_ writes
  intro current write next hnext
  obtain ⟨hname, rfl⟩ := set_eq_ok_iff.mp hnext
  have hne : key ≠ write.1 := fun h => hkey (h ▸ hname)
  rw [get?_store, if_neg hne]

/-- Writes put `null` under no key. -/
theorem get?_eq_null_of_afterWrites
    {writes : List (String × Json)} {key : String}
    (h : (afterWrites object writes).get? key = some .null) :
    object.get? key = some .null := by
  refine Attempts.run_invariant
    (P := fun current : JsonObject => current.get? key = some .null → object.get? key = some .null)
    ?_ id writes h
  intro current write next hcurrent hnext hnull
  obtain ⟨-, rfl⟩ := set_eq_ok_iff.mp hnext
  rw [get?_store] at hnull
  by_cases hkey : key = write.1
  · rw [if_pos hkey] at hnull
    cases hvalue : write.2.isNull with
    | true => simp [hvalue] at hnull
    | false =>
        simp only [hvalue, Bool.false_eq_true, if_false, Option.some.injEq] at hnull
        rw [hnull] at hvalue
        cases hvalue
  · rw [if_neg hkey] at hnull
    exact hcurrent hnull

end JsonObject

/-! ## Writes to typed schemas -/

/-- An object has each of its keys once, which the list of its members leaves open. -/
def Json.HasUniqueKeys : Json → Prop
  | .object members => (members.map Prod.fst).Nodup
  | _ => True

namespace Schema

variable {s next : Schema} {name : String} {value : Json}

/-- The write is under the name of a property that can be written, and the object with this member
alone decodes. -/
def admits (write : String × Json) : Bool :=
  decide (write.1 ∈ writableFields.map Field.name) && (ofJson (.object [write])).isOk

/-- The form in which a written value reads back: items in the JSON form of the schema that they
decode to, and any other value as it is. -/
def readBack (name : String) (value : Json) : Json :=
  if name = "items" then (canonical value).toOption.getD .null else value

theorem mem_writableNames_iff :
    name ∈ writableFields.map Field.name ↔
      ∃ field : Field, field.name = name ∧ field.writable = true := by
  simp [writableFields, Field.mem_all, and_comm]

/-- A write is accepted under the name of a field that can be written if its value decodes, and it
then replaces the content of this field. -/
theorem set_eq_ok_iff :
    set s name value = .ok next ↔ ∃ field : Field, field.name = name ∧ field.writable = true ∧
      ∃ found, field.decode (node value) = .ok found ∧ next = s.replace field found := by
  constructor
  · intro h
    cases hfield : recordFormat.field? name with
    | none =>
        rw [set_eq_error s hfield value] at h
        cases h
    | some field =>
        obtain rfl : field.name = name := RecordFormat.name_eq_of_field?_eq_some hfield
        cases hwritable : field.writable with
        | false =>
            obtain rfl : field = .reference := by simpa [Field.writable] using hwritable
            cases h
        | true =>
            rw [set_name s hwritable value] at h
            cases hdecode : field.decode (node value) with
            | error error =>
                rw [hdecode] at h
                cases h
            | ok found =>
                rw [hdecode] at h
                exact ⟨field, rfl, hwritable, found, hdecode, (Except.ok.inj h).symm⟩
  · rintro ⟨field, rfl, hwritable, found, hdecode, rfl⟩
    rw [set_name s hwritable value, hdecode]
    rfl

theorem attemptWrite_accepts_iff (s : Schema) (write : String × Json) :
    (∃ next, attemptWrite s write = .ok next) ↔ admits write = true := by
  obtain ⟨name, value⟩ := write
  rw [admits, Bool.and_eq_true, decide_eq_true_eq, mem_writableNames_iff]
  constructor
  · rintro ⟨next, hnext⟩
    obtain ⟨field, rfl, hwritable, found, hdecode, -⟩ := set_eq_ok_iff.mp hnext
    refine ⟨⟨field, rfl, hwritable⟩, ?_⟩
    rw [ofJson_singleton, hdecode]
    rfl
  · rintro ⟨⟨field, rfl, hwritable⟩, hok⟩
    rw [ofJson_singleton] at hok
    cases hdecode : field.decode (node value) with
    | error error =>
        rw [hdecode] at hok
        cases hok
    | ok found => exact ⟨_, set_eq_ok_iff.mpr ⟨field, rfl, hwritable, found, hdecode, rfl⟩⟩

theorem textValue_of_toText?
    {text : Option String} (h : value.shape.toText? = .ok text) :
    textValue text = value := by
  cases value <;> cases h <;> rfl

theorem get_replace
    (s : Schema) {field : Field} {found : field.Content} (hunique : value.HasUniqueKeys)
    (h : field.decode (node value) = .ok found) :
    (s.replace field found).get field = readBack field.name value := by
  cases field with
  | type => exact textValue_of_toText? h
  | format => exact textValue_of_toText? h
  | title => exact textValue_of_toText? h
  | description => exact textValue_of_toText? h
  | reference => exact textValue_of_toText? h
  | nullable =>
      cases value <;> cases h
      rfl
  | readOnly =>
      cases value <;> cases h
      rfl
  | enumeration =>
      cases value <;> cases h
      rfl
  | sample => cases value <;> cases h <;> rfl
  | properties =>
      cases value with
      | object members =>
          cases h
          exact congrArg Json.object (OrderedMap.entries_ofList hunique)
      | _ => cases h
  | items =>
      change (if value.isNull then Except.ok none else (ofJson value).map some) =
        Except.ok found at h
      change (Option.map toJson found).getD .null = (canonical value).toOption.getD .null
      cases hnull : value.isNull with
      | true =>
          rw [JsonObject.eq_null_of_isNull hnull] at h ⊢
          cases h
          rfl
      | false =>
          rw [hnull] at h
          rw [canonical]
          cases hvalue : ofJson value with
          | error error =>
              rw [hvalue] at h
              cases h
          | ok inner =>
              rw [hvalue] at h
              cases h
              rfl

/-- A value that was written reads back, and every other property reads as before. -/
theorem get?_of_set
    (hunique : value.HasUniqueKeys) (h : set s name value = .ok next) (key : String) :
    get? next key = if key = name then some (readBack key value) else get? s key := by
  obtain ⟨field, rfl, -, found, hdecode, rfl⟩ := set_eq_ok_iff.mp h
  by_cases hkey : key = field.name
  · subst hkey
    rw [if_pos rfl, get?_name, get_replace s hunique hdecode]
  · rw [if_neg hkey]
    cases hother : recordFormat.field? key with
    | none => rw [get?_eq_none _ hother, get?_eq_none _ hother]
    | some other =>
        obtain rfl : other.name = key := RecordFormat.name_eq_of_field?_eq_some hother
        have hne : other ≠ field := fun heq => hkey (congrArg Field.name heq)
        rw [get?_name, get?_name, get_congr (content_replace_of_ne s found hne)]

theorem reference_afterWrites (s : Schema) (writes : List (String × Json)) :
    (afterWrites s writes).reference = s.reference := by
  refine Attempts.view_run_of_kept Schema.reference ?_ writes
  intro current write next hnext
  obtain ⟨field, -, hwritable, found, -, rfl⟩ := set_eq_ok_iff.mp hnext
  have hne : Field.reference ≠ field := fun heq => by
    rw [← heq] at hwritable
    cases hwritable
  exact content_replace_of_ne current found hne

end Schema

/-! ## Both kinds of schema -/

/-- Writes to a schema do not interfere, whether it is typed or an object: each property is in the
end what the last accepted write has made it.  The reference never changes, nor does any key of an
object that is no keyword; and no key of an object comes to stand twice or to hold `null`. -/
theorem writes_are_independent (writes : List (String × Json)) :
    (∀ s : Schema, (∀ write ∈ writes, write.2.HasUniqueKeys) →
      WritesIndependently s writes Schema.admits Schema.readBack ∧
        (afterWrites s writes).reference = s.reference) ∧
    ∀ object : JsonObject,
      WritesIndependently object writes JsonObject.admits (fun _ value => value) ∧
        (∀ key ∉ schemaKeywords, (afterWrites object writes).get? key = object.get? key) ∧
        ((afterWrites object writes).entries.map Prod.fst).Nodup ∧
        ∀ key, (afterWrites object writes).get? key = some .null →
          object.get? key = some .null := by
  constructor
  · intro s hunique
    refine ⟨writesIndependently_of_step Schema.attemptWrite_accepts_iff ?_ s,
      Schema.reference_afterWrites s writes⟩
    intro write hwrite current next hnext
    exact Schema.get?_of_set (hunique write hwrite) hnext
  · intro object
    refine ⟨writesIndependently_of_step JsonObject.attemptWrite_accepts_iff ?_ object, ?_,
      (afterWrites object writes).nodup_keys, fun key => JsonObject.get?_eq_null_of_afterWrites⟩
    · intro write _ current next hnext
      exact JsonObject.get?_of_set hnext
    · intro key hkey
      exact JsonObject.get?_afterWrites_of_not_mem object writes hkey

/-- A text for a flag and a new reference are refused, and `null` takes the place of a type that was
written before.  Items read back as members, though they were written as a sequence. -/
theorem writes_are_independent_of_refused :
    let writes : List (String × Json) :=
      [("items", .array [.string "string"]), ("nullable", .string "yes"), ("$ref", .string "#/Id"),
        ("type", .string "array"), ("properties", .object [("id", .null)]), ("type", .null)]
    let s : Schema := { type := some "object", title := some "Age", reference := some "#/Age" }
    let object : JsonObject :=
      ⟨[("type", .string "object"), ("x-note", .integer 1), ("format", .null)], by decide⟩
    (∀ write ∈ writes, write.2.HasUniqueKeys) ∧
      get? (afterWrites s writes) "items" = some (Schema.ofType "string").toJson ∧
      get? (afterWrites s writes) "properties" = some (.object [("id", .null)]) ∧
      get? (afterWrites s writes) "type" = some .null ∧
      get? (afterWrites s writes) "title" = some (.string "Age") ∧
      (afterWrites s writes).reference = some "#/Age" ∧
      get? (afterWrites object writes) "nullable" = some (.string "yes") ∧
      (afterWrites object writes).get? "x-note" = some (.integer 1) := by
  intro writes s object
  have hunique : ∀ write ∈ writes, write.2.HasUniqueKeys := by
    simp [writes, Json.HasUniqueKeys]
  obtain ⟨hschema, hobject⟩ := writes_are_independent writes
  obtain ⟨hs, hreference⟩ := hschema s hunique
  obtain ⟨ho, hkeys, -, -⟩ := hobject object
  refine ⟨hunique, ?_, ?_, ?_, ?_, hreference, ?_, hkeys "x-note" (by decide)⟩
  · rw [hs.get?_afterWrites, hs.acceptedWrites_eq]
    rfl
  · rw [hs.get?_afterWrites, hs.acceptedWrites_eq]
    rfl
  · rw [hs.get?_afterWrites, hs.acceptedWrites_eq]
    rfl
  · rw [hs.get?_afterWrites, hs.acceptedWrites_eq]
    rfl
  · rw [ho.get?_afterWrites, ho.acceptedWrites_eq]
    rfl

end ValueSchema

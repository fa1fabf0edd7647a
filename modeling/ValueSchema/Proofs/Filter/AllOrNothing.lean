import ValueSchema.Proofs.Filter.Run
import ValueSchema.Proofs.Property.Writes
import ValueSchema.Property.Slots

/-!
# Copies are all or nothing

This holds on every property surface, however its descriptors, reads and writes fit together.  A
copy first asks the source for the value of each property, and the first property that the source
lacks is its error, whatever the writes would come to.  Then the first write that is refused is its
error.  If neither happens, the destination is as the writes have left it.

In place, a write may leave something behind even where it is refused.  Nothing of that is seen in
the end, since the writes go to a duplicate of the destination that takes its place only when all of
them are done.
-/

namespace ValueSchema

open PropertySurface

variable {σ : Type} [PropertySurface σ]

/-! ## The two phases -/

/-- The source lacks a property of the destination, reported under the name: there is no such
property, or it is to be transferred and has no value. -/
inductive Lacks (source : σ) (target : Descriptor) : String → Prop where
  | property (hproperty : property? source target.name = none) : Lacks source target target.name
  | value {origin : Descriptor} (horigin : property? source target.name = some origin)
      (hreadable : origin.readable = true) (hwritable : target.writable = true)
      (hvalue : get? source origin.name = none) : Lacks source target origin.name

def transfers (source : σ) (target : Descriptor) : Bool :=
  target.writable && (property? source target.name).any Descriptor.readable

/-- The write that transfers a property, if it is to be transferred and has a value. -/
def transfer? (source : σ) (target : Descriptor) : Option (String × Json) :=
  if transfers source target then
    (property? source target.name).bind fun origin =>
      (get? source origin.name).map (target.name, ·)
  else none

/-- What a copy comes to, told by the first property that the source lacks and the first write that
is refused. -/
structure AllOrNothing (source destination : σ) (result : Except FilterError Nat × σ) : Prop where
  /-- The source lacks a property: nothing has been written. -/
  lacking : ∀ before target after name, properties destination = before ++ target :: after →
    (∀ earlier ∈ before, ∀ other, ¬ Lacks source earlier other) → Lacks source target name →
    result = (.error (.missingProperty name), destination)
  /-- A write is refused: those before it are undone. -/
  refused : (∀ target ∈ properties destination, ∀ name, ¬ Lacks source target name) →
    ∀ before write after staged error,
    (properties destination).filterMap (transfer? source) = before ++ write :: after →
    before.foldlM attemptWrite destination = .ok staged →
    attemptWrite staged write = .error error →
    result = (.error error, destination)
  /-- All writes are accepted: the result is their number. -/
  accepted : (∀ target ∈ properties destination, ∀ name, ¬ Lacks source target name) →
    ∀ written,
    ((properties destination).filterMap (transfer? source)).foldlM attemptWrite destination =
      .ok written →
    result = (.ok ((properties destination).countP (transfers source)), written)

variable {source destination : σ} {target : Descriptor} {targets : List Descriptor} {name : String}

/-- Where look-up finds a descriptor of the name asked for, the name reported is that of the
property of the destination. -/
theorem Lacks.name_eq
    (h : Lacks source target name)
    (hnamed : ∀ origin, property? source target.name = some origin → origin.name = target.name) :
    name = target.name := by
  cases h with
  | property => rfl
  | value horigin => exact hnamed _ horigin

theorem transfers_eq {origin : Descriptor} (h : property? source target.name = some origin) :
    transfers source target = (origin.readable && target.writable) := by
  rw [transfers, h, Option.any_some, Bool.and_comm]

theorem not_lacks_iff :
    (∀ name, ¬ Lacks source target name) ↔
      ∃ origin, property? source target.name = some origin ∧
        (transfers source target = true → ∃ value, get? source origin.name = some value) := by
  constructor
  · intro h
    cases horigin : property? source target.name with
    | none => exact absurd (.property horigin) (h _)
    | some origin =>
        refine ⟨origin, rfl, fun htransfers => ?_⟩
        rw [transfers_eq horigin, Bool.and_eq_true] at htransfers
        refine Option.ne_none_iff_exists'.mp fun hvalue => ?_
        exact h _ (.value horigin htransfers.1 htransfers.2 hvalue)
  · rintro ⟨origin, horigin, hvalue⟩ name hlacks
    cases hlacks with
    | property hproperty =>
        rw [hproperty] at horigin
        cases horigin
    | value hother hreadable hwritable hnone =>
        rw [hother] at horigin
        cases horigin
        obtain ⟨value, hsome⟩ := hvalue (by rw [transfers_eq hother, hreadable, hwritable]; rfl)
        rw [hnone] at hsome
        cases hsome

theorem plannedWrites_cons_of_lacks (h : Lacks source target name) (rest : List Descriptor) :
    plannedWrites source (target :: rest) = .error (.missingProperty name) := by
  cases h with
  | property hproperty => rw [plannedWrites, hproperty]
  | value horigin hreadable hwritable hvalue =>
      rw [plannedWrites, horigin]
      simp [hreadable, hwritable, hvalue]

theorem plannedWrites_cons_of_not_lacks
    (h : ∀ name, ¬ Lacks source target name) (rest : List Descriptor) :
    plannedWrites source (target :: rest) =
      (plannedWrites source rest).map ((transfer? source target).toList ++ ·) := by
  obtain ⟨origin, horigin, hvalue⟩ := not_lacks_iff.mp h
  rw [plannedWrites, horigin, transfer?]
  simp only [← transfers_eq horigin]
  cases htransfers : transfers source target with
  | false => cases plannedWrites source rest <;> rfl
  | true =>
      obtain ⟨value, hvalue⟩ := hvalue htransfers
      simp [horigin, hvalue]

theorem plannedWrites_eq_ok (h : ∀ target ∈ targets, ∀ name, ¬ Lacks source target name) :
    plannedWrites source targets = .ok (targets.filterMap (transfer? source)) := by
  induction targets with
  | nil => rfl
  | cons target rest ih =>
      have hrest := ih fun other hother => h other (List.mem_cons_of_mem target hother)
      rw [plannedWrites_cons_of_not_lacks (h target (by simp)), hrest, List.filterMap_cons]
      cases transfer? source target <;> rfl

/-- The first property that the source lacks ends the first phase. -/
theorem plannedWrites_eq_error
    {before : List Descriptor} (hbefore : ∀ earlier ∈ before, ∀ other, ¬ Lacks source earlier other)
    (h : Lacks source target name) (after : List Descriptor) :
    plannedWrites source (before ++ target :: after) = .error (.missingProperty name) := by
  induction before with
  | nil => exact plannedWrites_cons_of_lacks h after
  | cons earlier rest ih =>
      have hrest := ih fun other hother => hbefore other (List.mem_cons_of_mem earlier hother)
      rw [List.cons_append, plannedWrites_cons_of_not_lacks (hbefore earlier (by simp)), hrest]
      rfl

theorem isSome_transfer? (h : ∀ name, ¬ Lacks source target name) :
    (transfer? source target).isSome = transfers source target := by
  obtain ⟨origin, horigin, hvalue⟩ := not_lacks_iff.mp h
  rw [transfer?, horigin]
  cases htransfers : transfers source target with
  | false => rfl
  | true =>
      obtain ⟨value, hvalue⟩ := hvalue htransfers
      simp [hvalue]

theorem length_filterMap_transfer?
    (h : ∀ target ∈ targets, ∀ name, ¬ Lacks source target name) :
    (targets.filterMap (transfer? source)).length = targets.countP (transfers source) := by
  rw [List.length_filterMap_eq_countP]
  refine List.countP_congr fun target htarget => ?_
  rw [isSome_transfer? (h target htarget)]

theorem writeAll_eq_foldlM (object : σ) (writes : List (String × Json)) :
    writeAll object writes = writes.foldlM attemptWrite object := by
  induction writes generalizing object with
  | nil => rfl
  | cons write rest ih =>
      have hset : set object write.1 write.2 = attemptWrite object write := rfl
      rw [writeAll, hset, List.foldlM_cons]
      cases attemptWrite object write with
      | ok next => exact ih next
      | error error => rfl

/-- The first write that is refused ends the second phase. -/
theorem writeAll_eq_error
    {object staged : σ} {before : List (String × Json)} {write : String × Json}
    {error : FilterError} (hbefore : before.foldlM attemptWrite object = .ok staged)
    (h : attemptWrite staged write = .error error) (after : List (String × Json)) :
    writeAll object (before ++ write :: after) = .error error := by
  have hset : set staged write.1 write.2 = .error error := h
  rw [writeAll_append, writeAll_eq_foldlM, hbefore, Except.bind, writeAll, hset]

/-- What an operation returns, and the object after it, which an error leaves as it was. -/
def outcome {α : Type} (object : σ) : Except FilterError (α × σ) → Except FilterError α × σ
  | .ok (result, next) => (.ok result, next)
  | .error error => (.error error, object)

theorem allOrNothing_copyProperties (source destination : σ) :
    AllOrNothing source destination (outcome destination (copyProperties source destination)) where
  lacking before target after name hproperties hbefore h := by
    rw [copyProperties, hproperties, plannedWrites_eq_error hbefore h]
    rfl
  refused hsupplied before write after staged error hwrites hbefore h := by
    rw [copyProperties, plannedWrites_eq_ok hsupplied, hwrites]
    simp only [writeAll_eq_error hbefore h after]
    rfl
  accepted hsupplied written hwritten := by
    rw [copyProperties, plannedWrites_eq_ok hsupplied]
    simp only [writeAll_eq_foldlM, hwritten, length_filterMap_transfer? hsupplied]
    rfl

theorem supplied_or_exists_first_lacking (source : σ) (targets : List Descriptor) :
    (∀ target ∈ targets, ∀ name, ¬ Lacks source target name) ∨
    ∃ before target after name, targets = before ++ target :: after ∧
      (∀ earlier ∈ before, ∀ other, ¬ Lacks source earlier other) ∧ Lacks source target name := by
  induction targets with
  | nil => exact .inl nofun
  | cons first rest ih =>
      by_cases hfirst : ∃ name, Lacks source first name
      · obtain ⟨name, hname⟩ := hfirst
        exact .inr ⟨[], first, rest, name, rfl, nofun, hname⟩
      · rw [not_exists] at hfirst
        rcases ih with hrest | ⟨before, target, after, name, rfl, hbefore, hname⟩
        · exact .inl (List.forall_mem_cons.mpr ⟨hfirst, hrest⟩)
        · exact .inr ⟨first :: before, target, after, name, rfl,
            List.forall_mem_cons.mpr ⟨hfirst, hbefore⟩, hname⟩

theorem accepted_or_exists_first_refused (object : σ) (writes : List (String × Json)) :
    (∃ written, writes.foldlM attemptWrite object = .ok written) ∨
    ∃ before write after staged error, writes = before ++ write :: after ∧
      before.foldlM attemptWrite object = .ok staged ∧
      attemptWrite staged write = .error error := by
  induction writes generalizing object with
  | nil => exact .inl ⟨object, rfl⟩
  | cons first rest ih =>
      rw [List.foldlM_cons]
      cases hfirst : attemptWrite object first with
      | error error => exact .inr ⟨[], first, rest, object, error, rfl, rfl, hfirst⟩
      | ok next =>
          rcases ih next with hrest | ⟨before, write, after, staged, error, rfl, hbefore, herror⟩
          · exact .inl hrest
          · refine .inr ⟨first :: before, write, after, staged, error, rfl, ?_, herror⟩
            rw [List.foldlM_cons, hfirst]
            exact hbefore

/-- One of the three cases always holds, so the result of a copy is determined. -/
theorem allOrNothing_iff {result : Except FilterError Nat × σ} :
    AllOrNothing source destination result ↔
      result = outcome destination (copyProperties source destination) := by
  have hcopy := allOrNothing_copyProperties source destination
  refine ⟨fun h => ?_, fun h => h ▸ hcopy⟩
  rcases supplied_or_exists_first_lacking source (properties destination) with
    hsupplied | ⟨before, target, after, name, hproperties, hbefore, hname⟩
  · rcases accepted_or_exists_first_refused destination
        ((properties destination).filterMap (transfer? source)) with
      ⟨written, hwritten⟩ | ⟨before, write, after, staged, error, hwrites, hbefore, herror⟩
    · rw [h.accepted hsupplied written hwritten, hcopy.accepted hsupplied written hwritten]
    · rw [h.refused hsupplied before write after staged error hwrites hbefore herror,
        hcopy.refused hsupplied before write after staged error hwrites hbefore herror]
  · rw [h.lacking before target after name hproperties hbefore hname,
      hcopy.lacking before target after name hproperties hbefore hname]

/-! ## Copies in place -/

/-- Writes made in place one after the other, up to the first that is refused: it may leave a
residue in the object. -/
def writeInPlace (residue : σ → String × Json → σ) (object : σ) :
    List (String × Json) → Except FilterError Unit × σ
  | [] => (.ok (), object)
  | write :: rest =>
    match attemptWrite object write with
    | .ok next => writeInPlace residue next rest
    | .error error => (.error error, residue object write)

/-- A copy in place: what it returns, and the destination after it.  The writes go to a duplicate of
the destination. -/
def copyInPlace (residue : σ → String × Json → σ) (source destination : σ) :
    Except FilterError Nat × σ :=
  match plannedWrites source (properties destination) with
  | .error error => (.error error, destination)
  | .ok writes =>
    match writeInPlace residue destination writes with
    | (.ok (), staged) => (.ok writes.length, staged)
    | (.error error, _) => (.error error, destination)

/-- A filter applied in place: what it returns, and the schema after it. -/
def SchemaFilter.applyInPlace
    (residue : σ → String × Json → σ) (f : SchemaFilter σ) (typeName : String) (schema : σ) :
    Except FilterError Bool × σ :=
  match f.registry.underlying? typeName with
  | none => (.ok false, schema)
  | some underlyingName =>
    match copyInPlace residue (f.generate underlyingName) schema with
    | (.ok _, copied) => (.ok true, copied)
    | (.error error, left) => (.error error, left)

variable (residue : σ → String × Json → σ)

/-- In place, writes end as they do on values, up to the residue of the one that is refused. -/
theorem writeInPlace_eq (object : σ) (writes : List (String × Json)) :
    (∃ written, writeAll object writes = .ok written ∧
      writeInPlace residue object writes = (.ok (), written)) ∨
    ∃ error left, writeAll object writes = .error error ∧
      writeInPlace residue object writes = (.error error, left) := by
  induction writes generalizing object with
  | nil => exact .inl ⟨object, rfl, rfl⟩
  | cons write rest ih =>
      have hset : set object write.1 write.2 = attemptWrite object write := rfl
      rw [writeAll, writeInPlace, hset]
      cases attemptWrite object write with
      | ok next => exact ih next
      | error error => exact .inr ⟨error, _, rfl, rfl⟩

/-- A copy in place is the copy on values, and an error leaves the destination as it was. -/
theorem copyInPlace_eq (source destination : σ) :
    copyInPlace residue source destination =
      outcome destination (copyProperties source destination) := by
  rw [copyInPlace, copyProperties]
  cases plannedWrites source (properties destination) with
  | error error => rfl
  | ok writes =>
      rcases writeInPlace_eq residue destination writes with
        ⟨written, hwritten, hplace⟩ | ⟨error, left, herror, hplace⟩
      · simp only [hwritten, hplace]
        rfl
      · simp only [herror, hplace]
        rfl

namespace SchemaFilter

variable {f : SchemaFilter σ} {typeName underlyingName : String}

theorem step_eq_of_eq_some
    (h : f.registry.underlying? typeName = some underlyingName) (schema : σ) :
    f.step schema typeName =
      let copied := outcome schema (copyProperties (f.generate underlyingName) schema)
      (copied.1.map fun _ => true, copied.2) := by
  rw [step, value_apply_of_eq_some h]
  cases copyProperties (f.generate underlyingName) schema <;> rfl

theorem applyInPlace_eq (f : SchemaFilter σ) (typeName : String) (schema : σ) :
    f.applyInPlace residue typeName schema = f.step schema typeName := by
  rw [applyInPlace]
  cases h : f.registry.underlying? typeName with
  | none => rw [step_of_eq_none h]
  | some underlyingName =>
      rw [step_eq_of_eq_some h]
      simp only [copyInPlace_eq]
      cases copyProperties (f.generate underlyingName) schema <;> rfl

theorem snd_step_of_ne
    {schema : σ} (h : (f.step schema typeName).1 ≠ .ok true) :
    (f.step schema typeName).2 = schema := by
  cases hname : f.registry.underlying? typeName with
  | none => rw [step_of_eq_none hname]
  | some underlyingName =>
      rw [step_eq_of_eq_some hname] at h ⊢
      cases hcopied : copyProperties (f.generate underlyingName) schema with
      | ok copied =>
          rw [hcopied] at h
          exact absurd rfl h
      | error error => rfl

end SchemaFilter

/-- On any surface, and whatever refused writes leave behind in place, a copy is all or nothing: it
fails for the first property that the source lacks, else with the first write that is refused, and
then leaves the destination as it was.  A filter passes this on and leaves the schema as it was
unless it has replaced it. -/
theorem copies_are_all_or_nothing (residue : σ → String × Json → σ) :
    (∀ source destination : σ,
      copyInPlace residue source destination =
        outcome destination (copyProperties source destination) ∧
      ∀ result, AllOrNothing source destination result ↔
        result = outcome destination (copyProperties source destination)) ∧
    (∀ (source : σ) (target : Descriptor) (name : String), Lacks source target name →
      (∀ origin, property? source target.name = some origin → origin.name = target.name) →
      name = target.name) ∧
    ∀ (f : SchemaFilter σ) (typeName : String) (schema : σ),
      f.applyInPlace residue typeName schema = f.step schema typeName ∧
      (f.registry.underlying? typeName = none → f.step schema typeName = (.ok false, schema)) ∧
      (∀ underlyingName, f.registry.underlying? typeName = some underlyingName →
        f.step schema typeName =
          let copied := outcome schema (copyProperties (f.generate underlyingName) schema)
          (copied.1.map fun _ => true, copied.2)) ∧
      ((f.step schema typeName).1 ≠ .ok true → (f.step schema typeName).2 = schema) := by
  refine ⟨fun source destination => ?_, fun _ _ _ h => h.name_eq, fun f typeName schema => ?_⟩
  · exact ⟨copyInPlace_eq residue source destination, fun _ => allOrNothing_iff⟩
  · exact ⟨SchemaFilter.applyInPlace_eq residue f typeName schema,
      fun h => SchemaFilter.step_of_eq_none h schema,
      fun _ h => SchemaFilter.step_eq_of_eq_some h schema, SchemaFilter.snd_step_of_ne⟩

/-- A hidden slot of the source fails the copy although the write before it would be refused.  With
a value for this slot the copy fails with the write; with a value for the first slot too, the name
that stands twice counts twice.  Refused writes wipe the object here, which shows nowhere. -/
theorem copies_are_all_or_nothing_of_repeated_name :
    let residue : SlotRecord → String × Json → SlotRecord := fun _ _ => ⟨[]⟩
    let code : Slot := { name := "code", value := .boolean true, refusesNull := true }
    let hint : Slot := { name := "hint", value := .null }
    let destination : SlotRecord :=
      ⟨[code, hint, { name := "mark", value := .null, writable := false }, hint]⟩
    let source (first second : Slot) : SlotRecord :=
      ⟨[first, second, { name := "mark", value := .null, hidden := true }]⟩
    let empty : Slot := { code with value := .null }
    let hidden : Slot := { hint with hidden := true }
    let shown : Slot := { hint with value := .integer 1 }
    copyInPlace residue (source empty hidden) destination =
        (.error (.missingProperty "hint"), destination) ∧
      copyInPlace residue (source empty shown) destination =
        (.error (.invalidValue "code" .nullValue), destination) ∧
      copyInPlace residue (source code shown) destination =
        (.ok 3, ⟨[code, shown, { name := "mark", value := .null, writable := false }, hint]⟩) := by
  intro residue code hint destination source empty hidden shown
  obtain ⟨hcopies, -, -⟩ := copies_are_all_or_nothing residue
  have hsupplied (first : Slot) (hfirst : first = code ∨ first = empty) :
      ∀ target ∈ PropertySurface.properties destination, ∀ name,
        ¬ Lacks (source first shown) target name := by
    have hproperties : PropertySurface.properties destination =
        [code.descriptor, hint.descriptor, ⟨"mark", true, false⟩, hint.descriptor] := rfl
    rw [hproperties]
    rcases hfirst with rfl | rfl <;> simp only [List.forall_mem_cons, not_lacks_iff] <;>
      exact ⟨⟨_, rfl, fun _ => ⟨_, rfl⟩⟩, ⟨_, rfl, fun _ => ⟨_, rfl⟩⟩, ⟨_, rfl, nofun⟩,
        ⟨_, rfl, fun _ => ⟨_, rfl⟩⟩, nofun⟩
  refine ⟨?_, ?_, ?_⟩
  · obtain ⟨hplace, hcopy⟩ := hcopies (source empty hidden) destination
    have hcopy := (hcopy _).mpr hplace
    have hcode : ∀ name, ¬ Lacks (source empty hidden) code.descriptor name :=
      not_lacks_iff.mpr ⟨_, rfl, fun _ => ⟨_, rfl⟩⟩
    have hhint : Lacks (source empty hidden) hint.descriptor hint.descriptor.name :=
      .value rfl rfl rfl rfl
    exact hcopy.lacking [code.descriptor] hint.descriptor _ _ rfl (by simpa using hcode) hhint
  · obtain ⟨hplace, hcopy⟩ := hcopies (source empty shown) destination
    have hcopy := (hcopy _).mpr hplace
    exact hcopy.refused (hsupplied empty (.inr rfl)) [] ("code", .null) _ destination _ rfl rfl rfl
  · obtain ⟨hplace, hcopy⟩ := hcopies (source code shown) destination
    have hcopy := (hcopy _).mpr hplace
    exact hcopy.accepted (hsupplied code (.inl rfl)) _ rfl

end ValueSchema

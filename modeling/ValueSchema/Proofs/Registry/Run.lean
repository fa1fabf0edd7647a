import ValueSchema.Proofs.Attempts
import ValueSchema.Proofs.Registry.Order

/-!
# Runs of registrations

Registrations may go on after one that is refused.  A registry then keeps, for each value object,
the primitive that it was first registered with: later registrations either repeat that primitive or
are refused, and in neither case change what is known.
-/

namespace ValueSchema.Registry

variable {r : Registry} {items processed calls : List WorkItem} {typeName : String}

def enter (r : Registry) (call : WorkItem) : Except FilterError Registry :=
  r.register call.typeName call.underlyingName

/-- A new registry after some registrations, of which any may have been refused. -/
def afterCalls (calls : List WorkItem) : Registry := Attempts.run enter {} calls

/-! ## What is recorded -/

theorem firstUnderlying?_eq_none_iff :
    firstUnderlying? items typeName = none ↔ typeName ∉ items.map WorkItem.typeName := by
  rw [firstUnderlying?, Option.map_eq_none_iff, List.find?_eq_none]
  simp

theorem Records.mem_names_iff
    (hrecords : r.Records items) :
    typeName ∈ r.names ↔ typeName ∈ items.map WorkItem.typeName := by
  rw [Registry.mem_names_iff, hrecords, ne_eq, firstUnderlying?_eq_none_iff, not_not]

theorem contains_iff : r.contains typeName = true ↔ typeName ∈ r.names := by
  rw [Registry.mem_names_iff, ← Bool.not_eq_false, contains_eq_false_iff]

theorem isEmpty_iff : r.isEmpty = true ↔ r.names = [] := by
  rw [isEmpty, OrderedMap.isEmpty, List.isEmpty_iff, names, List.map_eq_nil_iff]

/-- What a refused registration asks for is recorded already, under another primitive. -/
theorem Records.of_refused
    (hrecords : r.Records processed) {call : WorkItem} {error : FilterError}
    (h : r.enter call = .error error) :
    r.Records (processed ++ [call]) := by
  obtain ⟨existing, hexisting, -, -⟩ := register_eq_error_iff.mp h
  intro typeName
  rw [firstUnderlying?_append, firstUnderlying?_singleton, ← hrecords typeName]
  by_cases hname : typeName = call.typeName
  · rw [hname, hexisting, Option.some_or]
  · rw [if_neg hname, Option.or_none]

/-- A registry records one more registration, whether it is accepted or refused. -/
theorem Records.settle
    (hrecords : r.Records processed) (call : WorkItem) :
    (Attempts.settle r (r.enter call)).Records (processed ++ [call]) := by
  cases hresult : r.enter call with
  | ok next => exact hrecords.register hresult
  | error error => exact hrecords.of_refused hresult

theorem records_afterCalls (calls : List WorkItem) : (afterCalls calls).Records calls :=
  Attempts.run_induction (P := fun before current => Records current before) records_empty
    (fun _ call _ hrecords => hrecords.settle call) calls

/-! ## The run -/

theorem isEmpty_afterCalls_iff : (afterCalls calls).isEmpty = true ↔ calls = [] := by
  rw [isEmpty_iff, List.eq_nil_iff_forall_not_mem, ← List.map_eq_nil_iff (f := WorkItem.typeName),
    List.eq_nil_iff_forall_not_mem]
  exact forall_congr' fun typeName => not_congr (records_afterCalls calls).mem_names_iff

/-- A call in the midst of a run is accepted just when it repeats the first primitive of its name,
and otherwise reports that primitive. -/
theorem enter_afterCalls (before : List WorkItem) (call : WorkItem) (later : List WorkItem) :
    ∃ first, firstUnderlying? (before ++ call :: later) call.typeName = some first ∧
      ((∃ next, (afterCalls before).enter call = .ok next) ↔ call.underlyingName = first) ∧
      ∀ error, (afterCalls before).enter call = .error error →
        error = .conflictingRegistration call.typeName first call.underlyingName := by
  obtain ⟨next, hregister, -, hagrees⟩ | ⟨existing, hexisting, hclashes, hregister⟩ :=
    (records_afterCalls before).register_cases call later
  · have hfirst : firstUnderlying? (before ++ call :: later) call.typeName =
        some call.underlyingName := by
      simpa [clashes] using hagrees
    refine ⟨call.underlyingName, hfirst, ⟨fun _ => rfl, fun _ => ⟨next, hregister⟩⟩, ?_⟩
    intro error herror
    rw [enter, hregister] at herror
    cases herror
  · have hne : existing ≠ call.underlyingName := by
      simpa [clashes, hexisting] using hclashes
    refine ⟨existing, hexisting, ⟨?_, fun h => absurd h.symm hne⟩, ?_⟩
    · rintro ⟨next, hnext⟩
      rw [enter, hregister] at hnext
      cases hnext
    · intro error herror
      rw [enter, hregister] at herror
      exact (Except.error.inj herror).symm

/-- Registrations never change once made.  Over any run of calls on a new registry, the first call
that names a value object decides its primitive; a later one succeeds just when it repeats that
primitive, and otherwise reports it and leaves the registry as it was. -/
theorem first_registration_stays (calls : List WorkItem) :
    (∀ typeName, (afterCalls calls).underlying? typeName = firstUnderlying? calls typeName) ∧
      (∀ typeName, (afterCalls calls).contains typeName = true ↔
        typeName ∈ calls.map WorkItem.typeName) ∧
      (afterCalls calls).size = (calls.map WorkItem.typeName).dedup.length ∧
      ((afterCalls calls).isEmpty = true ↔ calls = []) ∧
      ∀ before call later, calls = before ++ call :: later →
        ∃ first, firstUnderlying? calls call.typeName = some first ∧
          ((∃ next, (afterCalls before).enter call = .ok next) ↔ call.underlyingName = first) ∧
          ∀ error, (afterCalls before).enter call = .error error →
            afterCalls (before ++ [call]) = afterCalls before ∧
              error = .conflictingRegistration call.typeName first call.underlyingName := by
  have hnames : ∀ {typeName}, typeName ∈ (afterCalls calls).names ↔
      typeName ∈ calls.map WorkItem.typeName :=
    (records_afterCalls calls).mem_names_iff
  refine ⟨records_afterCalls calls, fun typeName => contains_iff.trans hnames,
    size_eq_of_mem_names_iff hnames, isEmpty_afterCalls_iff, ?_⟩
  rintro before call later rfl
  obtain ⟨first, hfirst, haccepted, hrefused⟩ := enter_afterCalls before call later
  refine ⟨first, hfirst, haccepted, fun error herror => ⟨?_, hrefused error herror⟩⟩
  rw [afterCalls, Attempts.run_concat]
  exact congrArg (Attempts.settle _) herror

/-- A value object that is registered again, with another primitive and then with its own, keeps the
first; the call in between is refused. -/
theorem first_registration_stays_over_conflict :
    let age : WorkItem := ⟨"App.Age", "System.Int32"⟩
    let name : WorkItem := ⟨"App.Name", "System.String"⟩
    let wider : WorkItem := ⟨"App.Age", "System.Int64"⟩
    let calls := [age, name, wider, age]
    calls = [age, name] ++ wider :: [age] ∧
      (afterCalls calls).underlying? "App.Age" = some "System.Int32" ∧
      (afterCalls calls).size = 2 ∧
      (afterCalls [age, name]).enter wider =
        .error (.conflictingRegistration "App.Age" "System.Int32" "System.Int64") ∧
      afterCalls ([age, name] ++ [wider]) = afterCalls [age, name] := by
  intro age name wider calls
  obtain ⟨hunderlying, -, hsize, -, hcalls⟩ := first_registration_stays calls
  obtain ⟨first, -, -, hrefused⟩ := hcalls [age, name] wider [age] rfl
  have herror : (afterCalls [age, name]).enter wider =
      .error (.conflictingRegistration "App.Age" "System.Int32" "System.Int64") := rfl
  exact ⟨rfl, (hunderlying "App.Age").trans rfl, hsize.trans (by decide), herror,
    (hrefused _ herror).1⟩

end ValueSchema.Registry

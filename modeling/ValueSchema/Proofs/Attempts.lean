import Mathlib.Data.List.Induction

/-!
# Operations attempted in turn

An operation on a state either makes a new state or is refused, and one that is refused leaves the
state as it was.  A run attempts several operations one after the other.  What every accepted
operation keeps is kept by a run, and what some of them set is in the end as the last accepted one
of these has set it.
-/

namespace ValueSchema.Attempts

variable {σ α β ε : Type}

def settle (state : σ) : Except ε σ → σ
  | .ok next => next
  | .error _ => state

def run (act : σ → α → Except ε σ) (state : σ) (operations : List α) : σ :=
  operations.foldl (fun current operation => settle current (act current operation)) state

/-- Those of the operations that are accepted when they are attempted in turn. -/
def accepted (act : σ → α → Except ε σ) (state : σ) : List α → List α
  | [] => []
  | operation :: rest =>
    match act state operation with
    | .ok next => operation :: accepted act next rest
    | .error _ => accepted act state rest

variable {act : σ → α → Except ε σ} {state : σ}

theorem run_cons (operation : α) (rest : List α) :
    run act state (operation :: rest) = run act (settle state (act state operation)) rest :=
  rfl

theorem run_concat (operations : List α) (operation : α) :
    run act state (operations ++ [operation]) =
      settle (run act state operations) (act (run act state operations) operation) := by
  rw [run, List.foldl_append]
  rfl

/-- To prove what a run leaves behind, prove it of no operations and of one more operation. -/
theorem run_induction
    {P : List α → σ → Prop} (hstart : P [] state)
    (hstep : ∀ before operation current, P before current →
      P (before ++ [operation]) (settle current (act current operation)))
    (operations : List α) :
    P operations (run act state operations) := by
  induction operations using List.reverseRecOn with
  | nil => exact hstart
  | append_singleton before operation ih =>
      rw [run_concat]
      exact hstep before operation _ ih

theorem run_invariant
    {P : σ → Prop} (hact : ∀ current operation next, P current →
      act current operation = .ok next → P next)
    (hstart : P state) (operations : List α) :
    P (run act state operations) := by
  refine run_induction (P := fun _ current => P current) hstart ?_ operations
  intro _ operation current hcurrent
  cases hresult : act current operation with
  | ok next => exact hact current operation next hcurrent hresult
  | error error => exact hcurrent

theorem view_run_of_kept
    (view : σ → β)
    (hview : ∀ current operation next, act current operation = .ok next →
      view next = view current)
    (operations : List α) :
    view (run act state operations) = view state := by
  refine run_invariant (P := fun current => view current = view state) ?_ rfl operations
  intro current operation next hcurrent hnext
  exact (hview current operation next hnext).trans hcurrent

/-- A part of the state that an operation, once accepted, sets or leaves alone is in the end what
the last accepted operation has set it to. -/
theorem view_run
    {view : σ → β} {effect : α → Option β} {operations : List α}
    (hview : ∀ operation ∈ operations, ∀ current next, act current operation = .ok next →
      view next = (effect operation).getD (view current))
    (state : σ) :
    view (run act state operations) =
      ((accepted act state operations).filterMap effect).getLast?.getD (view state) := by
  induction operations generalizing state with
  | nil => rfl
  | cons operation rest ih =>
      have ih := ih fun other hother => hview other (List.mem_cons_of_mem operation hother)
      rw [run_cons, accepted]
      cases hresult : act state operation with
      | error error => exact ih state
      | ok next =>
          change view (run act next rest) = _
          rw [ih next, hview operation (by simp) state next hresult]
          cases heffect : effect operation with
          | none => simp [heffect]
          | some value => simp [heffect, List.getLast?_cons]

/-- The same for an optional part of the state, which keeps what it has until it is first set. -/
theorem view_run_eq_or
    {γ : Type} {view : σ → Option β} {effect : α → Option γ} {f : γ → β} {operations : List α}
    (hview : ∀ operation ∈ operations, ∀ current next, act current operation = .ok next →
      view next = ((effect operation).map f).or (view current))
    (state : σ) :
    view (run act state operations) =
      (((accepted act state operations).filterMap effect).getLast?.map f).or (view state) := by
  have hgetD (found : Option γ) (kept : Option β) :
      (found.map f).or kept = (found.map fun value => some (f value)).getD kept := by
    cases found <;> rfl
  have hrun : view (run act state operations) =
      ((accepted act state operations).filterMap fun operation =>
        (effect operation).map fun value => some (f value)).getLast?.getD (view state) := by
    refine view_run ?_ state
    intro operation hoperation current next h
    rw [hview operation hoperation current next h, hgetD]
  rw [hrun, hgetD, ← List.map_filterMap, List.getLast?_map]

/-- If acceptance depends on the operation alone, in the states that a run can reach, then the
accepted operations are those that pass the test. -/
theorem accepted_eq_filter
    {P : σ → Prop} {test : α → Bool}
    (hact : ∀ current operation next, P current → act current operation = .ok next → P next)
    (htest : ∀ current operation, P current →
      ((∃ next, act current operation = .ok next) ↔ test operation = true))
    (hstart : P state) (operations : List α) :
    accepted act state operations = operations.filter test := by
  induction operations generalizing state with
  | nil => rfl
  | cons operation rest ih =>
      have hiff := htest state operation hstart
      rw [accepted, List.filter_cons]
      cases hresult : act state operation with
      | ok next =>
          rw [if_pos (hiff.mp ⟨next, hresult⟩)]
          exact congrArg (operation :: ·) (ih (hact state operation next hstart hresult))
      | error error =>
          have hfails : ¬ test operation = true := by
            intro hpass
            obtain ⟨next, hnext⟩ := hiff.mpr hpass
            rw [hresult] at hnext
            cases hnext
          rw [if_neg hfails]
          exact ih hstart

end ValueSchema.Attempts

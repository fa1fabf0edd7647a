import ValueSchema.Proofs.SymbolTable
import ValueSchema.Source.History

/-!
# Runs on one history

A host may run the synthesis many times, each time with a configuration, a compilation and work
items of their own, and it collects what the runs emit in one history.  The main statement about
a sequence of runs is `runAll_eq`: the history grows by just the artifacts that the runs synthesize,
in their order.
-/

namespace ValueSchema.Source

/-! ## One run -/

/-- What a run of the synthesis is given. -/
structure Call where
  {τ : Type}
  [table : SymbolTable τ]
  [members : Membership String τ]
  [lawful : LawfulSymbolTable τ]
  configuration? : Option Configuration
  symbols : τ
  items : List WorkItem

attribute [instance] Call.table Call.members Call.lawful

namespace Call

variable {call : Call} {kind : ArtifactKind}

def configuration (call : Call) : Configuration := call.configuration?.getD default

def selected (call : Call) : Customization := call.configuration.effective

def synthesized (call : Call) : Logged (Option Artifact) :=
  synthesize call.configuration? call.symbols call.items

/-- The artifact that the run emits, if any. -/
def artifact? (call : Call) : Option Artifact := call.synthesized.value

/-- What the run reports in the log. -/
def events (call : Call) : List LogEvent := call.synthesized.events

/-- The text that the run emits under a name. -/
def textUnder? (name : String) (call : Call) : Option String :=
  (call.artifact?.filter fun made => made.name = name).map Artifact.text

theorem synthesized_of_disabled (h : call.selected = .disabled) :
    call.synthesized = ⟨none, []⟩ := by
  change (call.configuration?.getD default).effective = .disabled at h
  rw [synthesized, synthesize]
  simp only [h]
  rfl

theorem synthesized_of_not_mem
    (hkind : call.selected.artifactKind? = some kind) (h : filterInterface ∉ call.symbols) :
    call.synthesized = ⟨none, [.frameworkMissing kind]⟩ := by
  change (call.configuration?.getD default).effective.artifactKind? = some kind at hkind
  have hframework : referencesFramework call.symbols = false :=
    eq_false_of_ne_true fun htrue => h (referencesFramework_iff.mp htrue)
  rw [synthesized, synthesize]
  simp only [hkind, hframework]
  rfl

theorem synthesized_of_mem
    (hkind : call.selected.artifactKind? = some kind) (h : filterInterface ∈ call.symbols) :
    let made := artifact kind call.configuration call.items
    call.synthesized = ⟨some made.value, made.events ++
      [.synthesized kind call.items.length made.value.text.utf8ByteSize]⟩ := by
  change (call.configuration?.getD default).effective.artifactKind? = some kind at hkind
  have hframework : referencesFramework call.symbols = true := referencesFramework_iff.mpr h
  rw [synthesized, synthesize]
  simp only [hkind, hframework, if_true]
  rfl

theorem artifact?_of_disabled (h : call.selected = .disabled) : call.artifact? = none :=
  congrArg Logged.value (synthesized_of_disabled h)

theorem artifact?_of_not_mem
    (hkind : call.selected.artifactKind? = some kind) (h : filterInterface ∉ call.symbols) :
    call.artifact? = none :=
  congrArg Logged.value (synthesized_of_not_mem hkind h)

theorem artifact?_of_mem
    (hkind : call.selected.artifactKind? = some kind) (h : filterInterface ∈ call.symbols) :
    call.artifact? = some (artifact kind call.configuration call.items).value :=
  congrArg Logged.value (synthesized_of_mem hkind h)

theorem exists_artifactKind?_iff {choice : Customization} :
    (∃ kind, choice.artifactKind? = some kind) ↔ choice ≠ .disabled := by
  cases choice <;> simp [Customization.artifactKind?]

/-- A run emits an artifact just when one is asked for and the framework is referenced. -/
theorem isSome_artifact?_iff :
    call.artifact?.isSome = true ↔
      call.selected ≠ .disabled ∧ filterInterface ∈ call.symbols := by
  by_cases hselected : call.selected = .disabled
  · simp [artifact?_of_disabled hselected, hselected]
  · obtain ⟨kind, hkind⟩ := exists_artifactKind?_iff.mpr hselected
    by_cases hmem : filterInterface ∈ call.symbols
    · simp [artifact?_of_mem hkind hmem, hselected, hmem]
    · simp [artifact?_of_not_mem hkind hmem, hmem]

end Call

/-! ## Runs in turn -/

namespace History

/-- The history after runs in turn, with whether each of them appended an artifact. -/
def runAll (history : History) : List Call → Logged (List Bool × History)
  | [] => pure ([], history)
  | call :: rest => do
    let (appended, next) ← history.run call.configuration? call.symbols call.items
    let (reports, final) ← next.runAll rest
    return (appended :: reports, final)

/-- A new history after runs in turn. -/
def afterCalls (calls : List Call) : History := (runAll {} calls).value.2

/-- One run appends the artifact that it synthesizes, if any. -/
theorem run_eq (history : History) (call : Call) :
    history.run call.configuration? call.symbols call.items =
      ⟨(call.artifact?.isSome, ⟨history.artifacts ++ call.artifact?.toList⟩), call.events⟩ := by
  have hrun : history.run call.configuration? call.symbols call.items =
      call.synthesized >>= fun made =>
        made.elim (pure (false, history)) fun artifact => pure (true, history.push artifact) := by
    refine congrArg (call.synthesized >>= ·) (funext fun made => ?_)
    cases made <;> rfl
  rw [hrun, Call.artifact?, Call.events]
  refine Logged.ext ?_ ?_
  · cases h : call.synthesized.value <;> simp [h, push]
  · cases h : call.synthesized.value <;> simp [h]

/-- Runs append what they synthesize, in order, and their events follow one another. -/
theorem runAll_eq (history : History) (calls : List Call) :
    history.runAll calls =
      ⟨(calls.map fun call => call.artifact?.isSome,
        ⟨history.artifacts ++ calls.filterMap Call.artifact?⟩), calls.flatMap Call.events⟩ := by
  induction calls generalizing history with
  | nil =>
      refine Logged.ext ?_ rfl
      simp [runAll]
  | cons call rest ih =>
      have hfound : call.artifact?.toList ++ rest.filterMap Call.artifact? =
          (call :: rest).filterMap Call.artifact? := by
        cases h : call.artifact? <;> simp [h]
      rw [runAll, run_eq]
      refine Logged.ext ?_ ?_
      · simp [ih, hfound]
      · simp [ih]

theorem artifacts_afterCalls (calls : List Call) :
    (afterCalls calls).artifacts = calls.filterMap Call.artifact? := by
  rw [afterCalls, runAll_eq]
  rfl

theorem artifacts_afterCalls_concat (before : List Call) (call : Call) :
    (afterCalls (before ++ [call])).artifacts =
      (afterCalls before).artifacts ++ call.artifact?.toList := by
  rw [artifacts_afterCalls, artifacts_afterCalls, List.filterMap_append]
  cases h : call.artifact? <;> simp [h]

theorem run_afterCalls (before : List Call) (call : Call) :
    ((afterCalls before).run call.configuration? call.symbols call.items).value =
      (call.artifact?.isSome, afterCalls (before ++ [call])) := by
  rw [run_eq, ← artifacts_afterCalls_concat]

theorem afterCalls_concat_of_eq_none
    {call : Call} (h : call.artifact? = none) (before : List Call) :
    afterCalls (before ++ [call]) = afterCalls before := by
  have hartifacts := artifacts_afterCalls_concat before call
  rw [h, Option.toList_none, List.append_nil] at hartifacts
  exact congrArg History.mk hartifacts

/-! ## What stands under a name -/

/-- The text under a name is the first that a run has emitted under it. -/
theorem get?_afterCalls (calls : List Call) (name : String) :
    (afterCalls calls).get? name = calls.findSome? (Call.textUnder? name) := by
  rw [get?, artifacts_afterCalls]
  induction calls with
  | nil => rfl
  | cons call rest ih =>
      rw [List.findSome?_cons, Call.textUnder?, ← ih]
      cases hmade : call.artifact? with
      | none => simp [hmade]
      | some made => by_cases hname : made.name = name <;> simp [hmade, hname, Option.filter]

theorem get?_afterCalls_eq_some_iff {calls : List Call} {name text : String} :
    (afterCalls calls).get? name = some text ↔
      ∃ before call after, calls = before ++ call :: after ∧
        call.textUnder? name = some text ∧
        ∀ earlier ∈ before, earlier.textUnder? name = none := by
  rw [get?_afterCalls, List.findSome?_eq_some_iff]

/-- A text that stands under a name stays there. -/
theorem get?_afterCalls_append
    {before : List Call} {name text : String} (h : (afterCalls before).get? name = some text)
    (after : List Call) :
    (afterCalls (before ++ after)).get? name = some text := by
  rw [get?_afterCalls] at h ⊢
  rw [List.findSome?_append, h, Option.some_or]

theorem get?_eq_none
    (history : History) {name : String} (h : ∀ kind : ArtifactKind, kind.fileName ≠ name) :
    history.get? name = none := by
  rw [get?, Option.map_eq_none_iff, List.find?_eq_none]
  intro made _ hname
  exact h made.kind (beq_iff_eq.mp hname)

/-! ## The history of a host -/

/-- The history of a host is just what its runs emit.  The artifacts stand in it in the order of the
runs, each once.  A run reports whether it has appended one, which is so just when the configuration
asks for an artifact and the framework is referenced, and a run that appends none changes nothing.
Under a name the first artifact of that name is found and never gives way to a later one; there are
no names but those of the two kinds. -/
theorem history_is_emitted_artifacts (calls : List Call) :
    (runAll {} calls).value =
        (calls.map fun call => call.artifact?.isSome, afterCalls calls) ∧
      (afterCalls calls).artifacts = calls.filterMap Call.artifact? ∧
      (∀ before call after, calls = before ++ call :: after →
        ∃ appended, ((afterCalls before).run call.configuration? call.symbols call.items).value =
            (appended, afterCalls (before ++ [call])) ∧
          (appended = true ↔ call.selected ≠ .disabled ∧ filterInterface ∈ call.symbols) ∧
          (appended = true → ∃ made, call.artifact? = some made ∧
            (afterCalls (before ++ [call])).artifacts = (afterCalls before).artifacts ++ [made]) ∧
          (appended = false → afterCalls (before ++ [call]) = afterCalls before)) ∧
      (∀ name text, (afterCalls calls).get? name = some text ↔
        ∃ before call after, calls = before ++ call :: after ∧
          call.textUnder? name = some text ∧
          ∀ earlier ∈ before, earlier.textUnder? name = none) ∧
      (∀ before after name text, calls = before ++ after →
        (afterCalls before).get? name = some text → (afterCalls calls).get? name = some text) ∧
      ∀ name, (∀ kind : ArtifactKind, kind.fileName ≠ name) →
        (afterCalls calls).get? name = none := by
  refine ⟨?_, artifacts_afterCalls calls, ?_, fun _ _ => get?_afterCalls_eq_some_iff, ?_,
    fun name => get?_eq_none _⟩
  · rw [afterCalls, runAll_eq]
  · rintro before call after -
    refine ⟨_, run_afterCalls before call, Call.isSome_artifact?_iff, ?_, ?_⟩
    · intro hsome
      obtain ⟨made, hmade⟩ := Option.isSome_iff_exists.mp hsome
      refine ⟨made, hmade, ?_⟩
      rw [artifacts_afterCalls_concat, hmade, Option.toList_some]
    · intro hnone
      have hnone := Option.isNone_iff_eq_none.mp (Option.isSome_eq_false_iff.mp hnone)
      exact afterCalls_concat_of_eq_none hnone before
  · rintro before after name text rfl h
    exact get?_afterCalls_append h after

/-- Of four runs two emit a filter.  The text of the first of them is found, also after the second,
which has a namespace around its class. -/
theorem history_is_emitted_artifacts_of_two_filters :
    let plain := Configuration.ofCustomization .schemaFilter
    let enclosed : Configuration := { plain with enclosingNamespace := some "App" }
    let mapping := Configuration.ofCustomization .mappingExtension
    let age : WorkItem := ⟨"App.Age", "System.Int32"⟩
    let absent : Call := ⟨none, [filterInterface], [age]⟩
    let first : Call := ⟨some plain, ["System.Object", filterInterface], [age]⟩
    let missing : Call := ⟨some mapping, (∅ : Std.HashSet String), [age]⟩
    let second : Call := ⟨some enclosed, Std.HashSet.ofList [filterInterface], []⟩
    let calls := [absent, first] ++ [missing, second]
    (runAll {} calls).value.1 = [false, true, false, true] ∧
      (afterCalls calls).artifacts = [filterArtifact plain, filterArtifact enclosed] ∧
      (afterCalls calls).get? "SwashbuckleSchemaFilter_g.cs" =
        some (compilationUnit plain filterClass) ∧
      (afterCalls calls).get? "SwashbuckleSchemaExtensions.cs" = none := by
  intro plain enclosed mapping age absent first missing second calls
  have hlist : filterInterface ∈ ["System.Object", filterInterface] := by simp
  have hset : filterInterface ∈ Std.HashSet.ofList [filterInterface] := by simp
  have hempty : filterInterface ∉ (∅ : Std.HashSet String) := Std.HashSet.not_mem_empty
  have habsent : absent.artifact? = none := Call.artifact?_of_disabled rfl
  have hplain : first.selected.artifactKind? = some .schemaFilter := rfl
  have hfirst : first.artifact? = some (filterArtifact plain) :=
    Call.artifact?_of_mem hplain hlist
  have hmapping : missing.selected.artifactKind? = some .mappingExtension := rfl
  have hmissing : missing.artifact? = none := Call.artifact?_of_not_mem hmapping hempty
  have henclosed : second.selected.artifactKind? = some .schemaFilter := rfl
  have hsecond : second.artifact? = some (filterArtifact enclosed) :=
    Call.artifact?_of_mem henclosed hset
  obtain ⟨hvalue, hartifacts, -, hget, -, hnone⟩ := history_is_emitted_artifacts calls
  refine ⟨?_, ?_, (hget _ _).mpr ⟨[absent], first, [missing, second], rfl, ?_, ?_⟩, hnone _ ?_⟩
  · rw [hvalue]
    change [absent.artifact?.isSome, first.artifact?.isSome, missing.artifact?.isSome,
      second.artifact?.isSome] = _
    rw [habsent, hfirst, hmissing, hsecond]
    rfl
  · rw [hartifacts]
    simp only [calls, List.cons_append, List.nil_append, List.filterMap_cons, List.filterMap_nil,
      habsent, hfirst, hmissing, hsecond]
  · rw [Call.textUnder?, hfirst]
    rfl
  · intro earlier hearlier
    rw [List.mem_singleton.mp hearlier, Call.textUnder?, habsent]
    rfl
  · intro kind
    cases kind <;> decide

end History

end ValueSchema.Source

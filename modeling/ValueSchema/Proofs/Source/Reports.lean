import ValueSchema.Proofs.Source.Bindings
import ValueSchema.Proofs.Source.Runs

/-!
# Reports of runs

What a reader of the log learns about the runs of a host.  The log of a run follows from the case
that the run is in: `Call.log_of_disabled`, `Call.log_of_not_mem` and `Call.log_of_mem`.  The logs
of the runs follow one another (`History.log_eq_flatMap`), and the debug entries among them are the
emissions of the runs, one for one (`History.debugEntries_flatMap`).
-/

namespace ValueSchema

/-- What an event looks like in a log. -/
structure LogEntry where
  level : LogLevel
  message : String
  fields : List (String × LogValue)
  deriving DecidableEq

def LogEvent.entry (event : LogEvent) : LogEntry := ⟨event.level, event.message, event.fields⟩

namespace Source

/-! ## Entries -/

/-- The entry for the registration of a work item under a type. -/
def registrationEntry (item : WorkItem) (type : SchemaType) : LogEntry :=
  ⟨.trace, "formatting schema registration",
    [("type_name", .text item.typeName), ("underlying", .text item.underlyingName),
      ("schema_type", .text type.keyword)]⟩

def missingEntry (kind : ArtifactKind) : LogEntry :=
  ⟨.trace, "schema framework not referenced; skipping " ++ kind.title, []⟩

/-- The entry for an emission: its name, how many work items the run was given, and the length of
its text in UTF-8. -/
def emissionEntry (call : Call) (made : Artifact) : LogEntry :=
  ⟨.debug, "synthesized schema artifact",
    [("artifact", .text made.name), ("work_items", .count call.items.length),
      ("bytes", .count made.text.toUTF8.size)]⟩

def debugEntries (log : List LogEntry) : List LogEntry :=
  log.filter fun entry => entry.level = .debug

theorem debugEntries_append (first second : List LogEntry) :
    debugEntries (first ++ second) = debugEntries first ++ debugEntries second :=
  List.filter_append first second

theorem debugEntries_registrations (items : List WorkItem) :
    debugEntries (items.map fun item => registrationEntry item item.schemaType) = [] := by
  rw [debugEntries, List.filter_eq_nil_iff]
  intro entry hentry
  obtain ⟨item, -, rfl⟩ := List.mem_map.mp hentry
  exact of_decide_eq_false rfl

/-! ## The events of an artifact -/

theorem name_artifact (kind : ArtifactKind) (c : Configuration) (items : List WorkItem) :
    (artifact kind c items).value.name = kind.fileName := by
  cases kind <;> rfl

/-- Of the two kinds the mapping extension alone reports how it is written. -/
theorem entries_artifact (kind : ArtifactKind) (c : Configuration) (items : List WorkItem) :
    (artifact kind c items).events.map LogEvent.entry =
      match kind with
      | .schemaFilter => []
      | .mappingExtension => items.map fun item => registrationEntry item item.schemaType := by
  cases kind with
  | schemaFilter => rfl
  | mappingExtension =>
      simp only [artifact, mappingArtifact, writeMappingClass, Logged.events_bind,
        Logged.events_pure, List.append_nil, events_writeRegistrations, List.map_map]
      rfl

/-! ## One run -/

namespace Call

variable {call : Call} {kind : ArtifactKind}

/-- What a run leaves in the log. -/
def log (call : Call) : List LogEntry := call.events.map LogEvent.entry

theorem log_of_disabled (h : call.selected = .disabled) : call.log = [] := by
  rw [log, events, synthesized_of_disabled h, List.map_nil]

theorem log_of_not_mem
    (hkind : call.selected.artifactKind? = some kind) (h : filterInterface ∉ call.symbols) :
    call.log = [missingEntry kind] := by
  rw [log, events, synthesized_of_not_mem hkind h]
  rfl

/-- The entries for what is written on the way stand before the entry for the emission. -/
theorem log_of_mem
    (hkind : call.selected.artifactKind? = some kind) (h : filterInterface ∈ call.symbols) :
    let made := artifact kind call.configuration call.items
    call.log = made.events.map LogEvent.entry ++ [emissionEntry call made.value] := by
  intro made
  rw [log, events, synthesized_of_mem hkind h, List.map_append, emissionEntry, name_artifact]
  rfl

/-- A run has a debug entry for its emission and no other. -/
theorem debugEntries_log (call : Call) :
    debugEntries call.log = (call.artifact?.map (emissionEntry call)).toList := by
  by_cases hselected : call.selected = .disabled
  · rw [log_of_disabled hselected, artifact?_of_disabled hselected]
    rfl
  · obtain ⟨kind, hkind⟩ := exists_artifactKind?_iff.mpr hselected
    by_cases hmem : filterInterface ∈ call.symbols
    · rw [log_of_mem hkind hmem, artifact?_of_mem hkind hmem, debugEntries_append,
        entries_artifact]
      cases kind with
      | schemaFilter => rfl
      | mappingExtension =>
          rw [debugEntries_registrations]
          rfl
    · rw [log_of_not_mem hkind hmem, artifact?_of_not_mem hkind hmem]
      rfl

/-- The log tells what a run has done. -/
structure ToldBy (call : Call) (log : List LogEntry) : Prop where
  /-- An emitted mapping extension stands after its registrations, one for each work item in turn,
  with the keyword that the line of the work item binds. -/
  mapping : call.selected = .mappingExtension → filterInterface ∈ call.symbols →
    ∃ made, call.artifact? = some made ∧
      (∀ item ∈ call.items,
        readRegistration? (tab ++ tab ++ registration item).toList = some (binding item)) ∧
      ((∀ item ∈ call.items, '\n' ∉ item.typeName.toList) → call.configuration.IsValid →
        bindings made.text = call.items.map binding) ∧
      log = (call.items.map fun item => registrationEntry item (binding item).2) ++
        [emissionEntry call made]
  /-- Of an emitted filter there is the emission alone. -/
  filter : call.selected = .schemaFilter → filterInterface ∈ call.symbols →
    ∃ made, call.artifact? = some made ∧ log = [emissionEntry call made]
  /-- Without the framework it is told what was skipped. -/
  missing : call.selected ≠ .disabled → filterInterface ∉ call.symbols →
    call.artifact? = none ∧
      ∃ kind, call.selected.artifactKind? = some kind ∧ log = [missingEntry kind]
  disabled : call.selected = .disabled → call.artifact? = none ∧ log = []
  absent : call.configuration? = none → call.artifact? = none ∧ log = []

theorem toldBy_log (call : Call) : call.ToldBy call.log where
  mapping hselected hmem := by
    have hkind : call.selected.artifactKind? = some .mappingExtension := by rw [hselected]; rfl
    refine ⟨_, artifact?_of_mem hkind hmem, ?_, fun hitems hvalid => ?_, ?_⟩
    · intro item _
      exact readRegistration?_registrationLine item.typeName item.schemaType
    · exact bindings_mappingArtifact hvalid hitems
    · rw [log_of_mem hkind hmem, entries_artifact]
      rfl
  filter hselected hmem := by
    have hkind : call.selected.artifactKind? = some .schemaFilter := by rw [hselected]; rfl
    refine ⟨_, artifact?_of_mem hkind hmem, ?_⟩
    rw [log_of_mem hkind hmem, entries_artifact, List.nil_append]
  missing hselected hmem := by
    obtain ⟨kind, hkind⟩ := exists_artifactKind?_iff.mpr hselected
    exact ⟨artifact?_of_not_mem hkind hmem, kind, hkind, log_of_not_mem hkind hmem⟩
  disabled hselected := ⟨artifact?_of_disabled hselected, log_of_disabled hselected⟩
  absent hnone := by
    have hselected : call.selected = .disabled := by
      rw [selected, configuration, hnone]
      rfl
    exact ⟨artifact?_of_disabled hselected, log_of_disabled hselected⟩

end Call

/-! ## Runs in turn -/

namespace History

/-- The runs that emit an artifact, each with its artifact. -/
def emissions (calls : List Call) : List (Call × Artifact) :=
  calls.filterMap fun call => call.artifact?.map fun made => (call, made)

/-- The log of runs in turn on a new history. -/
def log (calls : List Call) : List LogEntry := (runAll {} calls).events.map LogEvent.entry

theorem mem_emissions_iff {calls : List Call} {call : Call} {made : Artifact} :
    (call, made) ∈ emissions calls ↔ call ∈ calls ∧ call.artifact? = some made := by
  simp [emissions]

theorem map_fst_emissions (calls : List Call) :
    (emissions calls).map Prod.fst = calls.filter fun call => call.artifact?.isSome := by
  induction calls with
  | nil => rfl
  | cons call rest ih =>
      rw [emissions] at ih ⊢
      cases hmade : call.artifact? <;> simp [hmade, ih]

theorem map_snd_emissions (calls : List Call) :
    (emissions calls).map Prod.snd = (afterCalls calls).artifacts := by
  rw [artifacts_afterCalls, emissions, List.map_filterMap]
  congr 1
  funext call
  rw [Option.map_map]
  exact Option.map_id'

theorem log_eq_flatMap (calls : List Call) : log calls = calls.flatMap Call.log := by
  rw [log, runAll_eq, List.map_flatMap]
  rfl

theorem debugEntries_flatMap (calls : List Call) :
    debugEntries (calls.flatMap Call.log) =
      (emissions calls).map fun emission => emissionEntry emission.1 emission.2 := by
  induction calls with
  | nil => rfl
  | cons call rest ih =>
      rw [List.flatMap_cons, debugEntries_append, ih, Call.debugEntries_log]
      cases hmade : call.artifact? <;> simp [emissions, hmade]

/-- The log tells the truth about the runs of a host.  Its debug entries are just the artifacts that
were appended to the history, one for one and in their order, each with its name, the number of work
items of its run and its length.  The logs of the runs follow one another, and each tells what its
run has done, whatever the history was. -/
theorem log_tells_runs (calls : List Call) :
    debugEntries (log calls) =
        (emissions calls).map (fun emission => emissionEntry emission.1 emission.2) ∧
      (emissions calls).map Prod.snd = (afterCalls calls).artifacts ∧
      (emissions calls).map Prod.fst = calls.filter (fun call => call.artifact?.isSome) ∧
      (∀ call made, (call, made) ∈ emissions calls → call.artifact? = some made) ∧
      log calls = calls.flatMap Call.log ∧
      ∀ call ∈ calls, ∀ history : History,
        (history.run call.configuration? call.symbols call.items).events.map LogEvent.entry =
            call.log ∧
          call.ToldBy call.log := by
  refine ⟨?_, map_snd_emissions calls, map_fst_emissions calls, ?_, log_eq_flatMap calls, ?_⟩
  · rw [log_eq_flatMap, debugEntries_flatMap]
  · intro call made hmem
    exact (mem_emissions_iff.mp hmem).2
  · intro call _ history
    refine ⟨?_, Call.toldBy_log call⟩
    rw [run_eq]
    rfl

/-- Of four runs two emit, one after two registrations of the same type, whose name is longer in
UTF-8 than in characters. -/
theorem log_tells_runs_of_two_emissions :
    let size : WorkItem := ⟨"App.Größe", "System.Int32"⟩
    let mapping : Configuration :=
      { Configuration.ofCustomization .mappingExtension with enclosingNamespace := some "App" }
    let plain := Configuration.ofCustomization .schemaFilter
    let registered : Call := ⟨some mapping, ["System.Object", filterInterface], [size, size]⟩
    let skipped : Call := ⟨some mapping, (∅ : Std.HashSet String), [size]⟩
    let absent : Call := ⟨none, [filterInterface], [size]⟩
    let filtered : Call := ⟨some plain, Std.HashSet.ofList [filterInterface], [size]⟩
    let calls := [registered, skipped, absent, filtered]
    ∃ extension filter, (afterCalls calls).artifacts = [extension, filter] ∧
      bindings extension.text = [("App.Größe", .integer), ("App.Größe", .integer)] ∧
      log calls =
        [registrationEntry size .integer, registrationEntry size .integer,
          emissionEntry registered extension, missingEntry .mappingExtension,
          emissionEntry filtered filter] ∧
      debugEntries (log calls) =
        [emissionEntry registered extension, emissionEntry filtered filter] := by
  intro size mapping plain registered skipped absent filtered calls
  have hlist : filterInterface ∈ ["System.Object", filterInterface] := by simp
  have hset : filterInterface ∈ Std.HashSet.ofList [filterInterface] := by simp
  have hempty : filterInterface ∉ (∅ : Std.HashSet String) := Std.HashSet.not_mem_empty
  have hnames : ∀ item ∈ [size, size], '\n' ∉ item.typeName.toList := by decide
  have hvalid : mapping.IsValid := by decide
  obtain ⟨hdebug, hartifacts, -, -, hlog, htold⟩ := log_tells_runs calls
  obtain ⟨extension, hextension, -, hbindings, hregistered⟩ :=
    (htold registered (by simp [calls]) {}).2.mapping rfl hlist
  obtain ⟨hnone, kind, hkind, hskipped⟩ :=
    (htold skipped (by simp [calls]) {}).2.missing (by decide) hempty
  obtain ⟨habsent, hsilent⟩ := (htold absent (by simp [calls]) {}).2.absent rfl
  obtain ⟨filter, hfilter, hfiltered⟩ := (htold filtered (by simp [calls]) {}).2.filter rfl hset
  have hemissions : emissions calls = [(registered, extension), (filtered, filter)] := by
    simp [emissions, calls, hextension, hnone, habsent, hfilter]
  refine ⟨extension, filter, ?_, hbindings hnames hvalid, ?_, ?_⟩
  · rw [← hartifacts, hemissions]
    rfl
  · cases hkind
    simp only [hlog, calls, List.flatMap_cons, List.flatMap_nil, hregistered, hskipped, hsilent,
      hfiltered]
    rfl
  · rw [hdebug, hemissions]
    rfl

end History

end Source

end ValueSchema

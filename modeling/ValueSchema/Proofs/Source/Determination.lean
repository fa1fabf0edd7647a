import ValueSchema.Proofs.Source.Bindings
import ValueSchema.Proofs.SymbolTable

/-!
# What determines an artifact

The inputs that an artifact depends on are gathered in a key.  Runs with the same key synthesize the
same artifact, and the artifact tells the key: no two keys have the same lines.
-/

namespace ValueSchema

namespace Source

open Text

/-! ## Keys -/

/-- What an artifact depends on. -/
inductive Key where
  | nothing
  | filter (enclosing? : Option String) (identity? : Option (String × String))
  | mapping (enclosing? : Option String) (identity? : Option (String × String))
      (bindings : List (String × SchemaType))
  deriving DecidableEq

/-- The key of a run. -/
def key {τ : Type} [SymbolTable τ] [Membership String τ] [LawfulSymbolTable τ]
    (c? : Option Configuration) (symbols : τ) (items : List WorkItem) : Key :=
  let c := c?.getD default
  if filterInterface ∈ symbols then
    match c.effective with
    | .disabled => .nothing
    | .schemaFilter => .filter c.enclosingNamespace c.identity?
    | .mappingExtension => .mapping c.enclosingNamespace c.identity? (items.map binding)
  else .nothing

/-- The artifact of a key, as its kind and its lines. -/
def Key.lines? : Key → Option (ArtifactKind × List String)
  | nothing => none
  | filter enclosing? identity? =>
    some (.schemaFilter, unitLines enclosing? identity? filterLines)
  | mapping enclosing? identity? bindings =>
    some (.mappingExtension, unitLines enclosing? identity? (mappingLines bindings))

section Runs

variable {τ : Type} [SymbolTable τ] [Membership String τ] [LawfulSymbolTable τ]
variable {symbols : τ} {items : List WorkItem}

theorem key_of_not_mem
    (c? : Option Configuration) (items : List WorkItem) (h : filterInterface ∉ symbols) :
    key c? symbols items = .nothing :=
  if_neg h

theorem lines?_key
    (c? : Option Configuration) (items : List WorkItem) (h : filterInterface ∈ symbols) :
    (key c? symbols items).lines? =
      (c?.getD default).effective.artifactKind?.map fun kind =>
        (kind, unitLines (c?.getD default).enclosingNamespace (c?.getD default).identity?
          (classLines kind items)) := by
  unfold key
  rw [if_pos h]
  generalize c?.getD default = c
  cases c.effective <;> rfl

/-- A run synthesizes the artifact of its key. -/
theorem value_synthesize
    (c? : Option Configuration) (symbols : τ)
    (h : ∀ item ∈ items, '\n' ∉ item.typeName.toList) :
    (synthesize c? symbols items).value =
      (key c? symbols items).lines?.map fun made => ⟨made.1, unlines made.2⟩ := by
  by_cases hmem : filterInterface ∈ symbols
  · have hframework : referencesFramework symbols = true := referencesFramework_iff.mpr hmem
    rw [lines?_key c? items hmem, synthesize]
    generalize c?.getD default = c
    cases hkind : c.effective.artifactKind? with
    | none => rfl
    | some kind =>
        simp only [hframework, if_true]
        exact congrArg some (value_artifact kind c h)
  · have hframework : referencesFramework symbols = false :=
      eq_false_of_ne_true fun htrue => hmem (referencesFramework_iff.mp htrue)
    rw [key_of_not_mem c? items hmem, synthesize]
    generalize c?.getD default = c
    cases hkind : c.effective.artifactKind? with
    | none => rfl
    | some kind => simp only [hframework]; rfl

theorem newline_not_mem_lines?
    {c? : Option Configuration} (hvalid : ∀ c ∈ c?, c.IsValid)
    (h : ∀ item ∈ items, '\n' ∉ item.typeName.toList) {made : ArtifactKind × List String}
    (hmade : (key c? symbols items).lines? = some made) :
    ∀ line ∈ made.2, '\n' ∉ line.toList := by
  have hvalid : (c?.getD default).IsValid := by
    cases c? with
    | none => exact Configuration.isValid_default
    | some c => exact hvalid c rfl
  by_cases hmem : filterInterface ∈ symbols
  · rw [lines?_key c? items hmem, Option.map_eq_some_iff] at hmade
    obtain ⟨kind, -, rfl⟩ := hmade
    exact newline_not_mem_unitLines hvalid (isLine_classLines kind h)
  · rw [key_of_not_mem c? items hmem] at hmade
    cases hmade

end Runs

/-! ## Lines that tell their key

The first lines of a namespace, of an attribute and of a class begin with `n`, `[` and `p`.  So it
can be seen from the lines whether a class has a namespace around it and an attribute above it.
-/

/-- The first character of the first line after its indentation. -/
def opening? (lines : List String) : Option Char := lines.head?.bind leading?

theorem opening?_cons (line : String) (rest : List String) :
    opening? (line :: rest) = leading? line := rfl

theorem opening?_filterLines : opening? filterLines = some 'p' := by
  have hclass : leading? "public class " = some 'p' := leading?_of_spelling rfl
  change opening? (_ :: _) = _
  rw [opening?_cons]
  exact leading?_append (leading?_append (leading?_append hclass _) _) _

theorem opening?_mappingLines (bindings : List (String × SchemaType)) :
    opening? (mappingLines bindings) = some 'p' := by
  have hclass : leading? "public static class " = some 'p' := leading?_of_spelling rfl
  change opening? (_ :: _) = _
  rw [opening?_cons]
  exact leading?_append hclass _

theorem attributeLine_inj
    {name name' version version' : String}
    (h : attributeLine name version = attributeLine name' version') :
    name = name' ∧ version = version' := by
  rw [attributeLine_eq, attributeLine_eq, String.append_right_inj] at h
  obtain ⟨hname, hrest⟩ := CSharp.literal_append_inj h
  rw [String.append_right_inj] at hrest
  exact ⟨hname, (CSharp.literal_append_inj hrest).1⟩

theorem opening?_declarationLines_some
    (identity : String × String) (classLines : List String) :
    opening? (declarationLines (some identity) classLines) = some '[' := by
  change opening? (attributeLine identity.1 identity.2 :: classLines) = _
  rw [opening?_cons, leading?_attributeLine]

theorem opening?_declarationLines_ne
    {classLines : List String} (h : opening? classLines = some 'p')
    (identity? : Option (String × String)) :
    opening? (declarationLines identity? classLines) ≠ some 'n' := by
  cases identity? with
  | none =>
      change opening? classLines ≠ some 'n'
      simp [h]
  | some identity => simp [opening?_declarationLines_some]

theorem declarationLines_inj
    {identity? identity'? : Option (String × String)} {classLines classLines' : List String}
    (hclass : opening? classLines = some 'p') (hclass' : opening? classLines' = some 'p')
    (h : declarationLines identity? classLines = declarationLines identity'? classLines') :
    identity? = identity'? ∧ classLines = classLines' := by
  cases identity? with
  | none =>
      cases identity'? with
      | none => exact ⟨rfl, h⟩
      | some identity' =>
          have hopening := opening?_declarationLines_some identity' classLines'
          rw [← h] at hopening
          exact absurd (hclass.symm.trans hopening) (by decide)
  | some identity =>
      cases identity'? with
      | none =>
          have hopening := opening?_declarationLines_some identity classLines
          rw [h] at hopening
          exact absurd (hclass'.symm.trans hopening) (by decide)
      | some identity' =>
          obtain ⟨hline, hrest⟩ := List.cons.inj h
          obtain ⟨hname, hversion⟩ := attributeLine_inj hline
          exact ⟨congrArg some (Prod.ext hname hversion), hrest⟩

theorem opening?_bodyLines_some
    (name : String) (identity? : Option (String × String)) (classLines : List String) :
    opening? (bodyLines (some name) identity? classLines) = some 'n' := by
  change opening? (("namespace " ++ name) :: _) = _
  rw [opening?_cons, leading?_namespaceLine]

/-- The lines of a unit tell its namespace, its generator and its class. -/
theorem unitLines_inj
    {enclosing? enclosing'? : Option String} {identity? identity'? : Option (String × String)}
    {classLines classLines' : List String}
    (hclass : opening? classLines = some 'p') (hclass' : opening? classLines' = some 'p')
    (h : unitLines enclosing? identity? classLines =
      unitLines enclosing'? identity'? classLines') :
    enclosing? = enclosing'? ∧ identity? = identity'? ∧ classLines = classLines' := by
  have h := (List.cons.inj (List.append_cancel_left h)).2
  cases enclosing? with
  | none =>
      cases enclosing'? with
      | none => exact ⟨rfl, declarationLines_inj hclass hclass' h⟩
      | some name' =>
          have hopening := opening?_bodyLines_some name' identity'? classLines'
          rw [← h] at hopening
          exact absurd hopening (opening?_declarationLines_ne hclass identity?)
  | some name =>
      cases enclosing'? with
      | none =>
          have hopening := opening?_bodyLines_some name identity? classLines
          rw [h] at hopening
          exact absurd hopening (opening?_declarationLines_ne hclass' identity'?)
      | some name' =>
          rw [bodyLines, bodyLines, List.cons_append, List.cons_append, List.cons_append,
            List.cons_append, List.cons.injEq, List.cons.injEq, String.append_right_inj] at h
          obtain ⟨hname, -, hinner⟩ := h
          have hinner := (List.map_inj_right fun _ _ => indentedLine_inj (by decide)).mp
            (List.append_cancel_right hinner)
          exact ⟨congrArg some hname, declarationLines_inj hclass hclass' hinner⟩

/-- No two keys have the same lines. -/
theorem Key.lines?_inj {left right : Key} : left.lines? = right.lines? ↔ left = right := by
  refine ⟨fun h => ?_, congrArg lines?⟩
  cases left with
  | nothing =>
      cases right with
      | nothing => rfl
      | filter enclosing? identity? => cases h
      | mapping enclosing? identity? bindings => cases h
  | filter enclosing? identity? =>
      cases right with
      | nothing => cases h
      | filter enclosing'? identity'? =>
          have hunit := (Prod.mk.inj (Option.some.inj h)).2
          obtain ⟨rfl, rfl, -⟩ := unitLines_inj opening?_filterLines opening?_filterLines hunit
          rfl
      | mapping enclosing'? identity'? bindings => cases (Prod.mk.inj (Option.some.inj h)).1
  | mapping enclosing? identity? bindings =>
      cases right with
      | nothing => cases h
      | filter enclosing'? identity'? => cases (Prod.mk.inj (Option.some.inj h)).1
      | mapping enclosing'? identity'? bindings' =>
          have hunit := (Prod.mk.inj (Option.some.inj h)).2
          obtain ⟨rfl, rfl, hclass⟩ :=
            unitLines_inj (opening?_mappingLines bindings) (opening?_mappingLines bindings') hunit
          -- The lines of the two classes register the same bindings, which are those of the keys.
          have hbindings := congrArg readBindings hclass
          rw [readBindings_mappingLines, readBindings_mappingLines] at hbindings
          rw [hbindings]

/-- Two runs synthesize the same artifact, name and text, if and only if they have the same key. -/
theorem synthesize_eq_iff_key_eq
    {τ υ : Type} [SymbolTable τ] [Membership String τ] [LawfulSymbolTable τ]
    [SymbolTable υ] [Membership String υ] [LawfulSymbolTable υ]
    {c? d? : Option Configuration} (hc : ∀ c ∈ c?, c.IsValid) (hd : ∀ d ∈ d?, d.IsValid)
    (left : τ) (right : υ) {items others : List WorkItem}
    (hitems : ∀ item ∈ items, '\n' ∉ item.typeName.toList)
    (hothers : ∀ item ∈ others, '\n' ∉ item.typeName.toList) :
    ((synthesize c? left items).value.map fun made => (made.name, made.text)) =
        ((synthesize d? right others).value.map fun made => (made.name, made.text)) ↔
      key c? left items = key d? right others := by
  rw [value_synthesize c? left hitems, value_synthesize d? right hothers, ← Key.lines?_inj,
    Option.map_map, Option.map_map]
  constructor
  · intro h
    cases hleft : (key c? left items).lines? with
    | none =>
        rw [hleft, Option.map_none, eq_comm, Option.map_eq_none_iff] at h
        exact h.symm
    | some made =>
        rw [hleft, Option.map_some, eq_comm, Option.map_eq_some_iff] at h
        obtain ⟨other, hright, hmade⟩ := h
        obtain ⟨hname, htext⟩ := Prod.mk.inj hmade
        have hkind := ArtifactKind.fileName_inj.mp hname
        have hlines := unlines_inj (newline_not_mem_lines? hd hothers hright)
          (newline_not_mem_lines? hc hitems hleft) htext
        rw [hright, ← Prod.ext hkind hlines]
  · intro h
    rw [h]

/-- A version without a generator leaves no trace, nor does the choice between two primitives of one
schema type, nor the table that holds the name of the framework. -/
theorem synthesize_eq_of_single_and_double :
    let c : Configuration :=
      { customization := some .mappingExtension, enclosingNamespace := some "App.Api" }
    ((synthesize (some c) [filterInterface, "System.Object"]
        [⟨"App.Ratio<\r>", "System.Single"⟩]).value.map fun made => (made.name, made.text)) =
      (synthesize (some { c with generatorVersion := some "2.0" })
        (Std.HashSet.ofList [filterInterface]) [⟨"App.Ratio<\r>", "System.Double"⟩]).value.map
        fun made => (made.name, made.text) := by
  intro c
  have hleft : filterInterface ∈ [filterInterface, "System.Object"] := List.mem_cons_self
  have hright : filterInterface ∈ Std.HashSet.ofList [filterInterface] := by simp
  have hc : c.IsValid := by decide +kernel
  have hd : ({ c with generatorVersion := some "2.0" } : Configuration).IsValid := by
    decide +kernel
  refine (synthesize_eq_iff_key_eq (fun _ h => ?_) (fun _ h => ?_) _ _ (by decide)
    (by decide)).mpr ?_
  · rwa [← Option.some.inj h]
  · rwa [← Option.some.inj h]
  · rw [key, key, if_pos hleft, if_pos hright]
    rfl

end Source

end ValueSchema

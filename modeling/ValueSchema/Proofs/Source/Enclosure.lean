import ValueSchema.Proofs.Source.Nesting

/-!
# Configured text stays in its place

A scanner of C# source runs through the text of an artifact.  The names that a configuration and the
work items hold open no literal, comment or brace of their own: the class stands where the frame puts
it, under an attribute whose two literals denote the name and the version of the generator.
-/

namespace ValueSchema.Source

open CSharp CSharp.ScanState Text

variable {depth : Nat} {lines : List String}

/-! ## The frame of a class -/

/-- The declaration of the class of an artifact, up to its name. -/
def classHeader : ArtifactKind → String
  | .schemaFilter => "public class " ++ ArtifactKind.schemaFilter.className
  | .mappingExtension => "public static class " ++ ArtifactKind.mappingExtension.className

/-- What the frame of a class cannot hold in code: a text of several words on one line. -/
structure IsHeader (mark : List Char) : Prop where
  head?_eq : mark.head? = some 'p'
  newline_not_mem : '\n' ∉ mark
  quote_not_mem : '"' ∉ mark
  two_le_count : 2 ≤ mark.count ' '

theorem isHeader_classHeader (kind : ArtifactKind) : IsHeader (classHeader kind).toList := by
  cases kind <;> exact ⟨by decide +kernel, by decide +kernel, by decide +kernel, by decide +kernel⟩

variable {mark : List Char}

theorem IsHeader.not_infix
    (h : IsHeader mark) {piece : List Char} (hpiece : piece.count ' ' ≤ 1) :
    ¬ mark <:+: piece := by
  intro hinfix
  have hcount := hinfix.sublist.count_le ' '
  have htwo := h.two_le_count
  omega

theorem scans_line
    {s t u : ScanState} {line : String} (hline : Scans mark s (line.toList ++ ['\n']) t)
    (hrest : Scans mark t (unlines rest).toList u) :
    Scans mark s (unlines (line :: rest)).toList u := by
  rw [toList_unlines_cons, List.append_cons]
  exact hline.append hrest

theorem scans_triviaLines
    (hmark : IsHeader mark) {literals : List String}
    (htrivia : ∀ line ∈ lines, isTrivia line.toList = true)
    (hlines : ∀ line ∈ lines, Only (fun c => !isLineTerminator c) line) :
    Scans mark ⟨.lineStart, depth, literals⟩ (unlines lines).toList
      ⟨.lineStart, depth, literals⟩ := by
  induction lines with
  | nil =>
      rw [toList_unlines_nil]
      exact Scans.nil
  | cons line rest ih =>
      refine scans_line (scans_trivia hmark.head?_eq (by decide) (htrivia line (by simp)) ?_)
        (ih (fun other h => htrivia other (List.mem_cons_of_mem line h))
          fun other h => hlines other (List.mem_cons_of_mem line h))
      intro c hc
      simpa using hlines line (by simp) c hc

theorem isPlainCharacter_of_isNameCharacter
    {c : Char} (h : isNameCharacter c = true) :
    isPlainCharacter c = true := by
  have hne {d : Char} (hd : isNameCharacter d = false) : c ≠ d := by
    rintro rfl
    rw [h] at hd
    cases hd
  have hline : isLineTerminator c = false := by
    simp [isLineTerminator, hne (show isNameCharacter '\n' = false by decide +kernel),
      hne (show isNameCharacter '\r' = false by decide +kernel),
      hne (show isNameCharacter '\u0085' = false by decide +kernel),
      hne (show isNameCharacter '\u2028' = false by decide +kernel),
      hne (show isNameCharacter '\u2029' = false by decide +kernel)]
  simp [isPlainCharacter, isInlineCharacter, hline,
    hne (show isNameCharacter '"' = false by decide +kernel),
    hne (show isNameCharacter '\'' = false by decide +kernel),
    hne (show isNameCharacter '/' = false by decide +kernel),
    hne (show isNameCharacter '\x7b' = false by decide +kernel),
    hne (show isNameCharacter '\x7d' = false by decide +kernel),
    hne (show isNameCharacter '#' = false by decide +kernel)]

theorem scans_namespaceLines
    (hmark : IsHeader mark) {name : String} (hname : isQualifiedName name = true)
    (literals : List String) :
    Scans mark ⟨.lineStart, depth, literals⟩ (unlines ["namespace " ++ name, "\x7b"]).toList
      ⟨.lineStart, depth + 1, literals⟩ := by
  have hcharacters : Only isNameCharacter name := fun _ hc =>
    isNameCharacter_of_mem_qualifiedName hname hc
  have hplain : Only isPlainCharacter ("namespace " ++ name) :=
    Only.append (only_of_spelling rfl (by decide +kernel))
      (hcharacters.mono fun _ => isPlainCharacter_of_isNameCharacter)
  have hspaces : ("namespace " ++ name).toList.count ' ' ≤ 1 := by
    have hnone : name.toList.count ' ' = 0 :=
      List.count_eq_zero_of_not_mem (not_mem_of_only hcharacters (by decide +kernel))
    rw [String.toList_append, List.count_append, hnone]
    decide
  refine scans_line (scans_of_avoids (run_plain_line hplain)
    (avoids_append_singleton hmark.newline_not_mem (hmark.not_infix hspaces))) ?_
  refine scans_line (scans_of_avoids (run_opening_line rfl)
    (avoids_append_singleton hmark.newline_not_mem (hmark.not_infix (by decide)))) ?_
  rw [toList_unlines_nil]
  exact Scans.nil

theorem scans_spaces
    (hmark : IsHeader mark) {indent : String} (hindent : Only (fun c => c = ' ') indent)
    (depth : Nat) (literals : List String) :
    Scans mark ⟨.lineStart, depth, literals⟩ indent.toList ⟨.lineStart, depth, literals⟩ := by
  refine scans_of_avoids (run_spaces fun c hc => of_decide_eq_true (hindent c hc))
    (avoids_of_head_not_mem hmark.head?_eq fun hmem => ?_)
  exact absurd (of_decide_eq_true (hindent 'p' hmem)) (by decide)

theorem scans_attributeLine
    (hmark : IsHeader mark) (name version : String) (literals : List String) :
    Scans mark ⟨.lineStart, depth, literals⟩ ((attributeLine name version).toList ++ ['\n'])
      ⟨.lineStart, depth, literals ++ [name, version]⟩ := by
  have hopening : Scans mark ⟨.lineStart, depth, literals⟩ (attributeOpening.toList ++ ['"'])
      ⟨.literal [] .character, depth, literals⟩ := by
    have hspelled : attributeOpening.toList = '[' :: _ := toList_of_spelling rfl
    rw [hspelled]
    refine scans_of_avoids ?_ (avoids_append_singleton hmark.quote_not_mem
      (hmark.not_infix (by decide)))
    rw [run_append (run_code (by decide) (by decide) (List.all_eq_true.mp (by decide +kernel)))]
    rfl
  have hseparator : Scans mark ⟨.code, depth, literals ++ [name]⟩ (", ".toList ++ ['"'])
      ⟨.literal [] .character, depth, literals ++ [name]⟩ :=
    scans_inline (List.all_eq_true.mp (by decide)) hmark.quote_not_mem
      (hmark.not_infix (by decide)) rfl
  have hclosing : Scans mark ⟨.code, depth, literals ++ [name] ++ [version]⟩
      (")]".toList ++ ['\n']) ⟨.lineStart, depth, literals ++ [name] ++ [version]⟩ :=
    scans_inline (List.all_eq_true.mp (by decide)) hmark.newline_not_mem
      (hmark.not_infix (by decide)) rfl
  have hpieces := hopening.append ((scans_literal name).append
    (hseparator.append ((scans_literal version).append hclosing)))
  simpa [attributeLine_eq] using hpieces

/-! ## Artifacts -/

def indentation (enclosing? : Option String) : String :=
  match enclosing? with
  | some _ => tab
  | none => ""

/-- The number of braces around a class. -/
def levels (enclosing? : Option String) : Nat :=
  match enclosing? with
  | some _ => 1
  | none => 0

/-- The texts that the attribute of a class writes. -/
def attributeTexts (identity? : Option (String × String)) : List String :=
  match identity? with
  | some (name, version) => [name, version]
  | none => []

def namespaceLines (enclosing? : Option String) : List String :=
  match enclosing? with
  | some name => ["namespace " ++ name, "\x7b"]
  | none => []

def attributeLines (indent : String) (identity? : Option (String × String)) : List String :=
  match identity? with
  | some (name, version) => [indent ++ attributeLine name version]
  | none => []

def linesBefore (enclosing? : Option String) (identity? : Option (String × String)) :
    List String :=
  (preambleLines ++ [""]) ++
    (namespaceLines enclosing? ++ attributeLines (indentation enclosing?) identity?)

def linesAfter (enclosing? : Option String) : List String :=
  match enclosing? with
  | some _ => ["\x7d"]
  | none => []

theorem only_indentation (enclosing? : Option String) :
    Only (fun c => c = ' ') (indentation enclosing?) := by
  cases enclosing? with
  | none => exact fun c hc => by simp [indentation] at hc
  | some name => exact only_tab

theorem indentedLine_attributeLine (indent name version : String) :
    indentedLine indent (attributeLine name version) = indent ++ attributeLine name version := by
  apply String.toList_inj.mp
  rw [toList_indentedLine_of_ne, String.toList_append]
  simp [attributeLine_eq, show attributeOpening ≠ "" by decide]

theorem unitLines_eq
    (enclosing? : Option String) (identity? : Option (String × String))
    (classLines : List String) :
    unitLines enclosing? identity? classLines =
      linesBefore enclosing? identity? ++ classLines.map (indentedLine (indentation enclosing?)) ++
        linesAfter enclosing? := by
  have hempty : indentedLine "" = id := funext indentedLine_empty
  cases enclosing? <;> cases identity? <;>
    simp [unitLines, bodyLines, declarationLines, linesBefore, namespaceLines, attributeLines,
      linesAfter, indentation, hempty, indentedLine_attributeLine]

/-- The frame leads the scanner to the class. -/
theorem scans_linesBefore
    (hmark : IsHeader mark) {enclosing? : Option String}
    (henclosing : ∀ name, enclosing? = some name → isQualifiedName name = true)
    (identity? : Option (String × String)) :
    Scans mark {} (unlines (linesBefore enclosing? identity?)).toList
      ⟨.lineStart, levels enclosing?, attributeTexts identity?⟩ := by
  have hpreamble : Scans mark {} (unlines (preambleLines ++ [""])).toList {} := by
    refine scans_triviaLines hmark ?_ ?_
    · intro line hline
      rcases List.mem_append.mp hline with hline | hline
      · exact isTrivia_preambleLines line hline
      · rw [List.mem_singleton.mp hline]
        rfl
    · intro line hline
      rcases List.mem_append.mp hline with hline | hline
      · exact only_preambleLines line hline
      · rw [List.mem_singleton.mp hline]
        exact only_of_spelling rfl rfl
  have hnamespace : Scans mark {} (unlines (namespaceLines enclosing?)).toList
      ⟨.lineStart, levels enclosing?, []⟩ := by
    cases enclosing? with
    | none =>
        rw [namespaceLines, toList_unlines_nil]
        exact Scans.nil
    | some name => exact scans_namespaceLines hmark (henclosing name rfl) []
  have hattribute : Scans mark ⟨.lineStart, levels enclosing?, []⟩
      (unlines (attributeLines (indentation enclosing?) identity?)).toList
      ⟨.lineStart, levels enclosing?, attributeTexts identity?⟩ := by
    cases identity? with
    | none =>
        rw [attributeLines, toList_unlines_nil]
        exact Scans.nil
    | some identity =>
        rw [attributeLines, toList_unlines_cons, toList_unlines_nil, String.toList_append,
          List.append_assoc]
        exact (scans_spaces hmark (only_indentation enclosing?) _ []).append
          (scans_attributeLine hmark identity.1 identity.2 [])
  rw [linesBefore, unlines_append, unlines_append (namespaceLines enclosing?),
    String.toList_append, String.toList_append]
  exact hpreamble.append (hnamespace.append hattribute)

theorem run_linesAfter (enclosing? : Option String) (literals : List String) :
    run ⟨.lineStart, levels enclosing?, literals⟩ (unlines (linesAfter enclosing?)).toList =
      some ⟨.lineStart, 0, literals⟩ := by
  cases enclosing? with
  | none =>
      rw [linesAfter, toList_unlines_nil]
      rfl
  | some name =>
      rw [linesAfter, toList_unlines_cons, toList_unlines_nil]
      rfl

theorem exists_classLines_eq (kind : ArtifactKind) (items : List WorkItem) :
    ∃ (more : String) (rest : List String),
      classLines kind items = (classHeader kind ++ more) :: rest := by
  cases kind with
  | schemaFilter =>
      refine ⟨" : global::" ++ filterInterface, filterBody, ?_⟩
      change ("public class " ++ ArtifactKind.schemaFilter.className ++ " : global::" ++
        filterInterface) :: filterBody = ("public class " ++
        ArtifactKind.schemaFilter.className ++ (" : global::" ++ filterInterface)) :: filterBody
      exact congrArg (· :: filterBody) String.append_assoc
  | mappingExtension =>
      have hlines : classLines .mappingExtension items = classHeader .mappingExtension :: _ := rfl
      exact ⟨"", _, by rw [String.append_empty, hlines]⟩

theorem stateAt?_self
    {s : ScanState} (hmark : IsHeader mark) (hcode : s.mode.inCode = true) (rest : List Char) :
    stateAt? mark s (mark ++ rest) = some s := by
  have hhead := hmark.head?_eq
  cases hmark_eq : mark with
  | nil =>
      rw [hmark_eq] at hhead
      cases hhead
  | cons m marks =>
      have hprefix : (m :: marks).isPrefixOf (m :: (marks ++ rest)) = true :=
        List.isPrefixOf_iff_prefix.mpr (List.prefix_append (m :: marks) rest)
      rw [List.cons_append, stateAt?, hcode, hprefix]
      rfl

/-- Configured text and the names of types stay in their places.  The scanner ends behind the last
brace, and meets the class with the braces of the namespace open and the texts of the attribute
read. -/
theorem scan_artifact
    (kind : ArtifactKind) {c : Configuration} (hvalid : c.IsValid) {items : List WorkItem}
    (hitems : ∀ item ∈ items, Only isInlineCharacter item.typeName) :
    (∃ literals, run {} (artifact kind c items).value.text.toList =
      some ⟨.lineStart, 0, literals⟩) ∧
    stateAt? (classHeader kind).toList {} (artifact kind c items).value.text.toList =
      some ⟨.lineStart, if c.enclosingNamespace.isSome then 1 else 0,
        match c.generatorName with
        | some name => [name, c.generatorVersion.getD Configuration.defaultVersion]
        | none => []⟩ := by
  have hlevels : (if c.enclosingNamespace.isSome then 1 else 0) = levels c.enclosingNamespace := by
    cases c.enclosingNamespace <;> rfl
  have htexts : (match c.generatorName with
      | some name => [name, c.generatorVersion.getD Configuration.defaultVersion]
      | none => []) = attributeTexts c.identity? := by
    unfold Configuration.identity?
    cases c.generatorName <;> rfl
  have hnewline : ∀ item ∈ items, '\n' ∉ item.typeName.toList :=
    fun item hitem => not_mem_of_only (hitems item hitem) rfl
  have hmark := isHeader_classHeader kind
  have hbefore := scans_linesBefore hmark (Configuration.isValid_iff.mp hvalid).1 c.identity?
  rw [hlevels, htexts, value_artifact kind c hnewline, unitLines_eq, List.append_assoc,
    unlines_append, unlines_append, String.toList_append, String.toList_append]
  constructor
  · obtain ⟨read, hread⟩ := encloses_classLines kind hitems (levels c.enclosingNamespace)
      (indentation c.enclosingNamespace) (attributeTexts c.identity?)
      (only_indentation c.enclosingNamespace)
    refine ⟨read, ?_⟩
    rw [run_append hbefore.run_eq, run_append hread, run_linesAfter]
  · obtain ⟨more, rest, hclass⟩ := exists_classLines_eq kind items
    have hspaces := scans_spaces hmark (only_indentation c.enclosingNamespace)
      (levels c.enclosingNamespace) (attributeTexts c.identity?)
    have hnonempty : (classHeader kind ++ more).toList ≠ [] := by
      have hhead := hmark.head?_eq
      intro hnil
      rw [String.toList_append, List.append_eq_nil_iff] at hnil
      rw [hnil.1] at hhead
      cases hhead
    rw [hbefore.stateAt?_append, hclass, List.map_cons, toList_unlines_cons,
      toList_indentedLine_of_ne _ hnonempty, String.toList_append, List.append_assoc,
      List.append_assoc, hspaces.stateAt?_append, List.append_assoc]
    exact stateAt?_self hmark rfl _

/-- A generator whose name closes its literal, its class and its line does none of these. -/
theorem scan_artifact_of_hostile_name :
    let name := "\")]\x7d // \\\u2028\x7b"
    let c : Configuration := { enclosingNamespace := some "App.@class", generatorName := some name }
    let items : List WorkItem := [⟨"App.Age<#\\>", "System.Int32"⟩]
    c.IsValid ∧ (∀ item ∈ items, Only isInlineCharacter item.typeName) ∧
      (∃ literals, run {} (artifact .mappingExtension c items).value.text.toList =
        some ⟨.lineStart, 0, literals⟩) ∧
      stateAt? (classHeader .mappingExtension).toList {}
        (artifact .mappingExtension c items).value.text.toList =
        some ⟨.lineStart, 1, [name, "0.1.0"]⟩ := by
  intro name c items
  have hvalid : c.IsValid := by decide +kernel
  have hitems : ∀ item ∈ items, Only isInlineCharacter item.typeName :=
    List.forall_mem_singleton.mpr (only_of_spelling rfl (by decide))
  exact ⟨hvalid, hitems, scan_artifact .mappingExtension hvalid hitems⟩

end ValueSchema.Source

import ValueSchema.Proofs.CSharp.LiteralReader
import ValueSchema.Proofs.Text.Lines

/-!
# Scanning C# source

A scanner of source text that knows lines, comments, directives, string literals and braces.  It
skips a comment and a directive to the end of the line, reads a literal with its escapes, and counts
the braces outside them.  It refuses a brace that closes nothing, a line that ends inside a literal,
and what it does not know: character literals and comments over several lines.
-/

namespace ValueSchema.CSharp

/-- A character that leaves a scanner where it is, inside a line of code. -/
def isInlineCharacter (c : Char) : Bool :=
  !(isLineTerminator c || c = '"' || c = '\'' || c = '/' || c = '\x7b' || c = '\x7d')

/-- A character that leaves a scanner where it is, at the beginning of a line too. -/
def isPlainCharacter (c : Char) : Bool := isInlineCharacter c && c != '#'

/-- A line without code: an empty one, a comment or a directive. -/
def isTrivia : List Char → Bool
  | [] => true
  | '#' :: _ => true
  | '/' :: '/' :: _ => true
  | _ => false

theorem isTrivia_append
    {left : List Char} (h : isTrivia left = true) (hnonempty : left ≠ []) (right : List Char) :
    isTrivia (left ++ right) = true := by
  unfold isTrivia at h
  split at h
  · exact absurd rfl hnonempty
  · rfl
  · rfl
  · cases h

/-- Where a scanner stands. -/
inductive ScanMode where
  /-- At the beginning of a line, behind blanks at most. -/
  | lineStart
  | code
  /-- Behind a slash in code. -/
  | slash
  /-- In a comment or a directive. -/
  | skipped
  /-- In a literal, with its text so far. -/
  | literal (text : List Char) (pending : Pending)
  deriving DecidableEq

def ScanMode.inCode : ScanMode → Bool
  | lineStart => true
  | code => true
  | _ => false

/-- The state of a scanner: its mode, the number of open braces, and the literals so far. -/
structure ScanState where
  mode : ScanMode := .lineStart
  depth : Nat := 0
  literals : List String := []
  deriving DecidableEq

namespace ScanState

def readCode (s : ScanState) (c : Char) : Option ScanState :=
  if isLineTerminator c then some { s with mode := .lineStart }
  else if c = '"' then some { s with mode := .literal [] .character }
  else if c = '\'' then none
  else if c = '/' then some { s with mode := .slash }
  else if c = '\x7b' then some { s with mode := .code, depth := s.depth + 1 }
  else if c = '\x7d' then
    match s.depth with
    | 0 => none
    | depth + 1 => some { s with mode := .code, depth := depth }
  else some { s with mode := .code }

def step (s : ScanState) (c : Char) : Option ScanState :=
  match s.mode with
  | .lineStart =>
    if c = ' ' || c = '\t' then some s
    else if c = '#' then some { s with mode := .skipped }
    else readCode s c
  | .code => readCode s c
  | .slash =>
    if c = '/' then some { s with mode := .skipped }
    else if c = '*' then none
    else readCode s c
  | .skipped => if isLineTerminator c then some { s with mode := .lineStart } else some s
  | .literal text pending =>
    match LiteralState.step (.inside text pending) c with
    | none => none
    | some (.inside text pending) => some { s with mode := .literal text pending }
    | some (.closed text) =>
      some { s with mode := .code, literals := s.literals ++ [String.ofList text] }

def run (s : ScanState) (input : List Char) : Option ScanState := input.foldlM step s

/-- The state before the first place in code where a mark stands. -/
def stateAt? (mark : List Char) (s : ScanState) : List Char → Option ScanState
  | [] => none
  | c :: rest =>
    if s.mode.inCode && mark.isPrefixOf (c :: rest) then some s
    else (step s c).bind fun next => stateAt? mark next rest

theorem run_nil (s : ScanState) : s.run [] = some s := rfl

theorem run_cons (s : ScanState) (c : Char) (rest : List Char) :
    s.run (c :: rest) = (s.step c).bind fun next => next.run rest := by
  simp [run]

theorem run_append
    {s t : ScanState} {first : List Char} (h : s.run first = some t) (second : List Char) :
    s.run (first ++ second) = t.run second := by
  rw [run] at h
  simp [run, h]

/-! ## Lines of code -/

variable {depth : Nat} {literals : List String}

theorem readCode_of_inline (s : ScanState) {c : Char} (h : isInlineCharacter c = true) :
    readCode s c = some { s with mode := .code } := by
  simp only [isInlineCharacter, Bool.not_eq_true', Bool.or_eq_false_iff,
    decide_eq_false_iff_not] at h
  obtain ⟨⟨⟨⟨⟨hline, hquote⟩, hapostrophe⟩, hslash⟩, hopen⟩, hclose⟩ := h
  simp [readCode, hline, hquote, hapostrophe, hslash, hopen, hclose]

theorem run_inline
    {piece : List Char} (h : ∀ c ∈ piece, isInlineCharacter c = true) :
    run ⟨.code, depth, literals⟩ piece = some ⟨.code, depth, literals⟩ := by
  induction piece with
  | nil => rfl
  | cons c rest ih =>
      have hstep : step ⟨.code, depth, literals⟩ c = some ⟨.code, depth, literals⟩ :=
        readCode_of_inline _ (h c (by simp))
      rw [run_cons, hstep]
      exact ih fun d hd => h d (List.mem_cons_of_mem c hd)

theorem run_spaces
    {piece : List Char} (h : ∀ c ∈ piece, c = ' ') :
    run ⟨.lineStart, depth, literals⟩ piece = some ⟨.lineStart, depth, literals⟩ := by
  induction piece with
  | nil => rfl
  | cons c rest ih =>
      rw [h c (by simp), run_cons]
      exact ih fun d hd => h d (List.mem_cons_of_mem c hd)

theorem step_of_plain
    {c : Char} (h : isPlainCharacter c = true) (hblank : ¬ (c = ' ' ∨ c = '\t')) :
    step ⟨.lineStart, depth, literals⟩ c = some ⟨.code, depth, literals⟩ := by
  simp only [isPlainCharacter, Bool.and_eq_true, bne_iff_ne] at h
  simp [step, hblank, h.2, readCode_of_inline _ h.1]

theorem run_code
    {first : Char} {rest : List Char} (hfirst : isPlainCharacter first = true)
    (hblank : ¬ (first = ' ' ∨ first = '\t'))
    (hrest : ∀ c ∈ rest, isInlineCharacter c = true) :
    run ⟨.lineStart, depth, literals⟩ (first :: rest) = some ⟨.code, depth, literals⟩ := by
  rw [run_cons, step_of_plain hfirst hblank, Option.bind_some, run_inline hrest]

theorem run_plain_line
    {line : List Char} (h : ∀ c ∈ line, isPlainCharacter c = true) :
    run ⟨.lineStart, depth, literals⟩ (line ++ ['\n']) =
      some ⟨.lineStart, depth, literals⟩ := by
  induction line with
  | nil => rfl
  | cons c rest ih =>
      have hrest : ∀ d ∈ rest, isPlainCharacter d = true :=
        fun d hd => h d (List.mem_cons_of_mem c hd)
      by_cases hblank : c = ' ' ∨ c = '\t'
      · have hstep : step ⟨.lineStart, depth, literals⟩ c =
            some ⟨.lineStart, depth, literals⟩ := by
          simp [step, hblank]
        rw [List.cons_append, run_cons, hstep]
        exact ih hrest
      · have hinline : ∀ d ∈ rest, isInlineCharacter d = true :=
          fun d hd => (Bool.and_eq_true_iff.mp (hrest d hd)).1
        rw [run_append (run_code (h c (by simp)) hblank hinline)]
        rfl

theorem run_opening_line
    {line : List Char} (h : line.dropWhile (· = ' ') = ['\x7b']) :
    run ⟨.lineStart, depth, literals⟩ (line ++ ['\n']) =
      some ⟨.lineStart, depth + 1, literals⟩ := by
  rw [← List.takeWhile_append_dropWhile (p := (· = ' ')) (l := line), h, List.append_assoc,
    run_append (run_spaces fun _ => Text.eq_space_of_mem_takeWhile)]
  rfl

theorem run_closing_line
    {line : List Char} (h : line.dropWhile (· = ' ') = ['\x7d']) :
    run ⟨.lineStart, depth + 1, literals⟩ (line ++ ['\n']) =
      some ⟨.lineStart, depth, literals⟩ := by
  rw [← List.takeWhile_append_dropWhile (p := (· = ' ')) (l := line), h, List.append_assoc,
    run_append (run_spaces fun _ => Text.eq_space_of_mem_takeWhile)]
  rfl

/-! ## Marks -/

variable {mark : List Char} {s t u : ScanState}

/-- The scanner comes from one state to another through a piece of source, whatever follows it, and
meets no mark in code before. -/
structure Scans (mark : List Char) (s : ScanState) (piece : List Char) (t : ScanState) : Prop where
  run_eq : s.run piece = some t
  stateAt?_append : ∀ rest, stateAt? mark s (piece ++ rest) = stateAt? mark t rest

theorem Scans.nil : Scans mark s [] s := ⟨rfl, fun _ => rfl⟩

theorem Scans.append
    {first second : List Char} (hfirst : Scans mark s first t) (hsecond : Scans mark t second u) :
    Scans mark s (first ++ second) u where
  run_eq := by rw [run_append hfirst.run_eq, hsecond.run_eq]
  stateAt?_append rest := by
    rw [List.append_assoc, hfirst.stateAt?_append, hsecond.stateAt?_append]

/-- A character is read where no mark can stand. -/
theorem Scans.cons
    {c : Char} {piece : List Char} (hstep : s.step c = some t)
    (hmark : s.mode.inCode = true → ∀ rest, ¬ mark <+: c :: (piece ++ rest))
    (hpiece : Scans mark t piece u) :
    Scans mark s (c :: piece) u where
  run_eq := by rw [run_cons, hstep, Option.bind_some, hpiece.run_eq]
  stateAt?_append rest := by
    have hnone : (s.mode.inCode && mark.isPrefixOf (c :: (piece ++ rest))) = false := by
      cases hcode : s.mode.inCode with
      | false => rfl
      | true => exact eq_false_of_ne_true fun h => hmark hcode rest (List.isPrefixOf_iff_prefix.mp h)
    rw [List.cons_append, stateAt?, hnone, hstep]
    exact hpiece.stateAt?_append rest

/-- No mark begins in a piece, whatever follows it. -/
def Avoids (mark piece : List Char) : Prop :=
  ∀ before after rest, piece = before ++ after → after ≠ [] → ¬ mark <+: after ++ rest

theorem scans_of_avoids
    {piece : List Char} (hrun : s.run piece = some t) (havoids : Avoids mark piece) :
    Scans mark s piece t := by
  induction piece generalizing s with
  | nil =>
      rw [← Option.some.inj hrun]
      exact Scans.nil
  | cons c piece ih =>
      rw [run_cons] at hrun
      obtain ⟨middle, hstep, hpiece⟩ := Option.bind_eq_some_iff.mp hrun
      have hrest : Avoids mark piece := by
        intro before after rest heq
        exact havoids (c :: before) after rest (congrArg (c :: ·) heq)
      exact Scans.cons hstep (fun _ rest => havoids [] _ rest rfl (List.cons_ne_nil c piece))
        (ih hpiece hrest)

theorem not_prefix_of_head?
    {m c : Char} (hhead : mark.head? = some m) (hc : m ≠ c) (rest : List Char) :
    ¬ mark <+: c :: rest := by
  intro hprefix
  cases mark with
  | nil => cases hhead
  | cons d marks =>
      obtain rfl : d = m := Option.some.inj hhead
      exact hc (List.cons_prefix_cons.mp hprefix).1

theorem avoids_of_head_not_mem
    {m : Char} {piece : List Char} (hhead : mark.head? = some m) (h : m ∉ piece) :
    Avoids mark piece := by
  intro before after rest heq hafter
  cases after with
  | nil => exact absurd rfl hafter
  | cons c after =>
      have hc : m ≠ c := by
        rintro rfl
        exact h (by simp [heq])
      exact not_prefix_of_head? hhead hc _

/-- A piece that ends in a character foreign to the mark is cut off from what follows. -/
theorem avoids_append_singleton
    {body : List Char} {d : Char} (hd : d ∉ mark) (hbody : ¬ mark <:+: body) :
    Avoids mark (body ++ [d]) := by
  intro before after rest heq hafter hprefix
  obtain ⟨tail, rfl, hbody_eq⟩ : ∃ tail, after = tail ++ [d] ∧ body = before ++ tail := by
    rcases List.append_eq_append_iff.mp heq with ⟨middle, hbefore, hlast⟩ | ⟨tail, hbody, hafter⟩
    · obtain ⟨rfl, rfl⟩ : middle = [] ∧ after = [d] := by
        rcases List.singleton_eq_append_iff.mp hlast with ⟨rfl, rfl⟩ | ⟨rfl, rfl⟩
        · exact ⟨rfl, rfl⟩
        · exact absurd rfl hafter
      exact ⟨[], rfl, by simpa using hbefore.symm⟩
    · exact ⟨tail, hafter, hbody⟩
  -- The mark would end inside the body or run over `d`.
  have hinfix : ¬ mark <+: tail := fun h => hbody (h.isInfix.trans ⟨before, [], by simp [hbody_eq]⟩)
  rw [List.append_assoc] at hprefix
  rcases List.prefix_or_prefix_of_prefix hprefix (List.prefix_append tail _) with h | ⟨left, rfl⟩
  · exact hinfix h
  · rw [List.prefix_append_right_inj] at hprefix
    cases left with
    | nil => exact hinfix (by simp)
    | cons c left =>
        obtain ⟨rfl, -⟩ := List.cons_prefix_cons.mp hprefix
        exact hd (by simp)

theorem scans_inline
    {piece : List Char} {d : Char} (hpiece : ∀ c ∈ piece, isInlineCharacter c = true)
    (hd : d ∉ mark) (hmark : ¬ mark <:+: piece)
    (hstep : step ⟨.code, depth, literals⟩ d = some t) :
    Scans mark ⟨.code, depth, literals⟩ (piece ++ [d]) t := by
  refine scans_of_avoids ?_ (avoids_append_singleton hd hmark)
  rw [run_append (run_inline hpiece), run_cons, hstep]
  rfl

/-! ## Literals -/

/-- A literal is read as its text, and no mark stands in it. -/
theorem scans_of_run_literal
    {pending : Pending} {text found body : List Char}
    (h : LiteralState.run (.inside text pending) body = some (.closed found)) :
    Scans mark ⟨.literal text pending, depth, literals⟩ body
      ⟨.code, depth, literals ++ [String.ofList found]⟩ := by
  induction body generalizing text pending with
  | nil => cases h
  | cons c rest ih =>
      rw [LiteralState.run, List.foldlM_cons] at h
      cases hstep : LiteralState.step (.inside text pending) c with
      | none => simp [hstep] at h
      | some next =>
          rw [hstep] at h
          have hhidden : (ScanMode.literal text pending).inCode = true →
              ∀ rest', ¬ mark <+: c :: (rest ++ rest') := fun hcode => by cases hcode
          cases next with
          | inside text' pending' =>
              refine Scans.cons ?_ hhidden (ih h)
              simp [step, hstep]
          | closed text' =>
              cases rest with
              | nil =>
                  cases h
                  refine Scans.cons ?_ hhidden Scans.nil
                  simp [step, hstep]
              | cons d rest => simp [LiteralState.step_closed] at h

theorem scans_literal (text : String) :
    Scans mark ⟨.literal [] .character, depth, literals⟩ (text.toList.flatMap escapeChar ++ ['"'])
      ⟨.code, depth, literals ++ [text]⟩ := by
  simpa only [String.ofList_toList] using
    scans_of_run_literal (LiteralState.run_literal text)

/-! ## Comments and directives -/

theorem scans_skipped
    {line : List Char} (h : ∀ c ∈ line, isLineTerminator c = false) :
    Scans mark ⟨.skipped, depth, literals⟩ (line ++ ['\n']) ⟨.lineStart, depth, literals⟩ := by
  induction line with
  | nil => exact Scans.cons rfl (fun hcode => by cases hcode) Scans.nil
  | cons c rest ih =>
      refine Scans.cons ?_ (fun hcode => by cases hcode)
        (ih fun d hd => h d (List.mem_cons_of_mem c hd))
      simp [step, h c (by simp)]

/-- A line without code leaves the scanner where it was. -/
theorem scans_trivia
    {m : Char} (hhead : mark.head? = some m) (hm : isPlainCharacter m = true)
    {line : List Char} (htrivia : isTrivia line = true)
    (hline : ∀ c ∈ line, isLineTerminator c = false) :
    Scans mark ⟨.lineStart, depth, literals⟩ (line ++ ['\n'])
      ⟨.lineStart, depth, literals⟩ := by
  have hfree {c : Char} (hc : isPlainCharacter c = false) (rest : List Char) :
      ¬ mark <+: c :: rest := by
    refine not_prefix_of_head? hhead ?_ rest
    rintro rfl
    rw [hm] at hc
    cases hc
  unfold isTrivia at htrivia
  split at htrivia
  · exact Scans.cons rfl (fun _ _ => hfree (by decide) _) Scans.nil
  · next rest =>
      exact Scans.cons rfl (fun _ _ => hfree (by decide) _)
        (scans_skipped fun c hc => hline c (List.mem_cons_of_mem _ hc))
  · next rest =>
      refine Scans.cons rfl (fun _ _ => hfree (by decide) _)
        (Scans.cons rfl (fun hcode => by cases hcode) (scans_skipped fun c hc => ?_))
      exact hline c (List.mem_cons_of_mem _ (List.mem_cons_of_mem _ hc))
  · cases htrivia

end ScanState

end ValueSchema.CSharp

import ValueSchema.CSharp.Literal
import ValueSchema.Proofs.Text.Lines
import ValueSchema.Source.MappingClass

/-!
# Reading registrations back

A reader of the lines that register types, which takes a line apart at its fixed pieces.  The name
of a type may hold any text, the pieces included: what follows the name is found at its last place.
The main statement is `readRegistration?_registrationLine`.
-/

namespace ValueSchema

namespace Text

variable {mark text before after : List Char}

theorem splitAtLast?_append
    (first : List Char) (h : splitAtLast? mark text = some (before, after)) :
    splitAtLast? mark (first ++ text) = some (first ++ before, after) := by
  induction first with
  | nil => exact h
  | cons c rest ih =>
      rw [List.cons_append, splitAtLast?, ih]
      rfl

end Text

namespace Source

open Text

/-! ## The pieces of a registration -/

/-- What stands in a registration before the name of the type. -/
def openingText : String :=
  "global::Microsoft.Extensions.DependencyInjection.SwaggerGenOptionsExtensions.MapType<"

def middleText : String :=
  ">(o, () => new global::Microsoft.OpenApi.Models.OpenApiSchema \x7b Type = \""

def closingText : String := "\" \x7d);"

theorem only_tab : Only (fun c => c = ' ') tab := only_of_spelling rfl (by decide)

theorem dropWhile_tab_append (line : String) :
    (tab ++ line).toList.dropWhile (· = ' ') = line.toList.dropWhile (· = ' ') := by
  rw [String.toList_append, List.dropWhile_append_of_pos only_tab]

def registrationLine (typeName : String) (type : SchemaType) : String :=
  tab ++ tab ++ mapType typeName type

theorem registrationLine_eq (typeName : String) (type : SchemaType) :
    registrationLine typeName type =
      tab ++ tab ++ openingText ++ typeName ++ (middleText ++ type.keyword ++ closingText) := by
  change tab ++ tab ++ (openingText ++ typeName ++ middleText ++ type.keyword ++ closingText) = _
  simp only [String.append_assoc]

theorem isLine_registrationLine
    {typeName : String} (h : '\n' ∉ typeName.toList) (type : SchemaType) :
    IsLine (registrationLine typeName type) := by
  have hkeyword : Only (fun c => !CSharp.isLineTerminator c) type.keyword := by
    cases type <;> exact only_of_spelling rfl (by decide)
  have hlast : Only (fun c => !CSharp.isLineTerminator c)
      (middleText ++ type.keyword ++ closingText) :=
    Only.append (Only.append (only_of_spelling rfl (by decide)) hkeyword)
      (only_of_spelling rfl (by decide))
  have htabs : Only (fun c => !CSharp.isLineTerminator c) (tab ++ tab) :=
    Only.append (only_of_spelling rfl (by decide)) (only_of_spelling rfl (by decide))
  have hopening : Only (fun c => !CSharp.isLineTerminator c) openingText :=
    only_of_spelling rfl (by decide)
  have hfirst : '\n' ∉ (tab ++ tab ++ openingText ++ typeName).toList := by
    rw [String.toList_append, List.mem_append, not_or]
    exact ⟨not_mem_of_only (Only.append htabs hopening) rfl, h⟩
  rw [registrationLine_eq]
  refine IsLine.append_left hfirst (isLine_of_only hlast rfl rfl) ?_
  rw [String.append_assoc, String.toList_append]
  exact List.append_ne_nil_of_left_ne_nil (by decide) _

/-! ## The reader -/

/-- The type whose keyword stands before the end of a registration. -/
def closedKeyword? (text : List Char) : Option SchemaType :=
  SchemaType.all.find? fun type => (type.keyword ++ closingText).toList == text

/-- The name and the type that a line registers. -/
def readRegistration? (line : List Char) : Option (String × SchemaType) := do
  let rest ← afterMark? openingText.toList (line.dropWhile (· = ' '))
  let (name, after) ← splitAtLast? middleText.toList rest
  let type ← closedKeyword? after
  return (String.ofList name, type)

theorem closedKeyword?_keyword (type : SchemaType) :
    closedKeyword? (type.keyword ++ closingText).toList = some type := by
  cases type <;> decide +kernel

theorem splitAtLast?_middleText (type : SchemaType) :
    splitAtLast? middleText.toList (middleText ++ type.keyword ++ closingText).toList =
      some ([], (type.keyword ++ closingText).toList) := by
  have hmiddle : middleText.toList = _ := toList_of_spelling rfl
  have hclosing : closingText.toList = _ := toList_of_spelling rfl
  rw [String.toList_append, String.toList_append, String.toList_append, hmiddle, hclosing]
  cases type <;> decide +kernel

/-- A registration reads as the name and the type that it registers. -/
theorem readRegistration?_registrationLine (typeName : String) (type : SchemaType) :
    readRegistration? (registrationLine typeName type).toList = some (typeName, type) := by
  have hopening : openingText.toList = _ := toList_of_spelling rfl
  have hdrop : (registrationLine typeName type).toList.dropWhile (· = ' ') =
      openingText.toList ++ (typeName ++
        (middleText ++ type.keyword ++ closingText)).toList := by
    rw [registrationLine_eq, String.append_assoc, String.append_assoc, String.append_assoc,
      dropWhile_tab_append, dropWhile_tab_append, String.toList_append, hopening]
    rfl
  have hsplit := splitAtLast?_append typeName.toList (splitAtLast?_middleText type)
  rw [List.append_nil, ← String.toList_append] at hsplit
  simp only [readRegistration?, hdrop, afterMark?_append, hsplit, closedKeyword?_keyword,
    Option.bind_eq_bind, Option.bind_some, Option.pure_def, String.ofList_toList]

/-! ## Lines that register nothing -/

/-- The first character of a line after its indentation. -/
def leading? (line : String) : Option Char := (line.toList.dropWhile (· = ' ')).head?

theorem leading?_append
    {left : String} {c : Char} (h : leading? left = some c) (right : String) :
    leading? (left ++ right) = some c := by
  unfold leading? at h ⊢
  rw [String.toList_append, List.dropWhile_append]
  cases hleft : left.toList.dropWhile (· = ' ') with
  | nil =>
      rw [hleft] at h
      cases h
  | cons d rest =>
      rw [hleft] at h
      exact h

theorem leading?_tab_append (line : String) : leading? (tab ++ line) = leading? line := by
  rw [leading?, dropWhile_tab_append, leading?]

theorem leading?_of_spelling
    {line : String} {chars : List Char} (h : line = String.ofList chars) :
    leading? line = (chars.dropWhile (· = ' ')).head? := by
  rw [leading?, toList_of_spelling h]

theorem readRegistration?_eq_none
    {line : String} (h : leading? line ≠ some 'g') :
    readRegistration? line.toList = none := by
  have hopening : openingText.toList = 'g' :: _ := toList_of_spelling rfl
  have hmark : afterMark? openingText.toList (line.toList.dropWhile (· = ' ')) = none := by
    rw [hopening]
    unfold leading? at h
    cases hline : line.toList.dropWhile (· = ' ') with
    | nil => rfl
    | cons c rest =>
        rw [hline, List.head?_cons, ne_eq, Option.some.injEq] at h
        simp [afterMark?, Ne.symm h]
  simp [readRegistration?, hmark]

theorem readRegistration?_indentedLine (line : String) :
    readRegistration? (indentedLine tab line).toList = readRegistration? line.toList := by
  rw [readRegistration?, readRegistration?, dropWhile_indentedLine only_tab]

end Source

end ValueSchema

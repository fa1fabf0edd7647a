import ValueSchema.Configuration.Decoding
import ValueSchema.Proofs.Customization.Spelling
import ValueSchema.Toml.Value

/-!
# Flags in their various forms

A customization is chosen by a number, by a numeral of that number with white space around it, or
by either of them as a value in a document.  All these agree as far as numbers of 64 bits go, down
to the wording of the error, which names an unknown flag by its decimal, however it was written.

A number out of that range is not taken for a flag.  Its numerals name no customization either, so
the error holds the text as it was written.
-/

namespace ValueSchema

/-- Only a text with an `l` in it can be changed by what a message settles at its end. -/
theorem DecodeError.message_unknownCustomization
    {cause : UnknownCustomization} (h : 'l' ∉ cause.text.toList) :
    DecodeError.message (.unknownCustomization cause) = cause.message := by
  refine settlePosition_of_not_mem (c := 'l') (by decide) ?_
  change 'l' ∉ ("unknown schema customization: " ++ cause.text).toList
  rw [String.toList_append, List.mem_append]
  exact not_or_intro (by decide) h

namespace Customization

open Unicode

variable {n : Int} {left numeral right : List Char}

/-! ## Values that hold a flag -/

/-- Decodes a customization in a JSON document, with the message of the error. -/
def ofJson (value : Json) : Except String Customization :=
  (ofShape value.shape).mapError DecodeError.message

/-- Decodes a customization in a TOML document, with the wording of the error. -/
def ofToml (value : Toml.Value) : Except String Customization :=
  (ofShape value.shape).mapError (DecodeError.wording Toml.numberLayout)

theorem ofFlag_of_unknown (h : ∀ choice : Customization, choice.flag ≠ n) :
    ofFlag n = .error ⟨toString n⟩ := by
  have hnone : ofFlag? n = none :=
    Option.eq_none_iff_forall_ne_some.mpr fun choice hchoice =>
      h choice (flag_eq_of_ofFlag? hchoice)
  rw [ofFlag, hnone, Text.decimal_eq_toString]

/-- A document tells of an unknown flag in the words of its error. -/
theorem told_of_ofShape_eq
    {found : Shape} (h : ofShape found = (ofFlag n).mapError .unknownCustomization) :
    (ofShape found).mapError DecodeError.message =
        (ofFlag n).mapError UnknownCustomization.message ∧
      (ofShape found).mapError (DecodeError.wording Toml.numberLayout) =
        (ofFlag n).mapError UnknownCustomization.message := by
  rw [h, ofFlag]
  cases ofFlag? n with
  | some choice => exact ⟨rfl, rfl⟩
  | none =>
      have hletter : 'l' ∉ (Text.decimal n).toList := by
        intro h
        rcases (Text.isNumeral_decimal n).isDigit_or_sign h with h | h | h <;> cases h
      exact ⟨congrArg Except.error (DecodeError.message_unknownCustomization hletter), rfl⟩

/-- A flag of 64 bits selects the same by itself, as a numeral in any form, and as either of them in
a document of either format.  A numeral of any other number is refused as it was written. -/
theorem flag_entry_points_agree
    (hleft : ∀ c ∈ left, isWhiteSpace c = true) (hnumeral : Text.IsNumeral numeral n)
    (hright : ∀ c ∈ right, isWhiteSpace c = true) :
    let text := String.ofList (left ++ numeral ++ right)
    (-2 ^ 63 ≤ n ∧ n < 2 ^ 63 →
      parse text = ofFlag n ∧
        (∀ choice, ofFlag n = .ok choice ↔ choice.flag = n) ∧
        ((∀ choice : Customization, choice.flag ≠ n) → ofFlag n = .error ⟨toString n⟩) ∧
        ∀ told ∈ [ofJson (.integer n), ofJson (.string text),
            ofToml (.integer n), ofToml (.string text)],
          told = (ofFlag n).mapError UnknownCustomization.message) ∧
      (n < -2 ^ 63 ∨ 2 ^ 63 ≤ n → parse text = .error ⟨text⟩) := by
  intro text
  have hparse := parse_of_isNumeral (isCore_of_isNumeral hleft hnumeral hright) hnumeral
  constructor
  · intro hbound
    rw [if_pos (Text.isInt64_iff.mpr hbound)] at hparse
    have hinteger : ofShape (.integer n) = (ofFlag n).mapError .unknownCustomization :=
      if_pos (Text.isInt64_iff.mpr hbound)
    have hstring : ofShape (.string text) = (ofFlag n).mapError .unknownCustomization :=
      congrArg (Except.mapError DecodeError.unknownCustomization) hparse
    obtain ⟨hjson, htoml⟩ := told_of_ofShape_eq hinteger
    obtain ⟨hjson', htoml'⟩ := told_of_ofShape_eq hstring
    refine ⟨hparse, fun _ => ofFlag_eq_ok_iff, ofFlag_of_unknown, ?_⟩
    simp only [List.forall_mem_cons, List.not_mem_nil, false_imp_iff, implies_true, and_true]
    exact ⟨hjson, hjson', htoml, htoml'⟩
  · intro hout
    have hbound : ¬ Text.isInt64 n = true := by
      rw [Text.isInt64_iff]
      omega
    rw [hparse, if_neg hbound]

/-- The last flag of 64 bits and the number after it, both with leading zeros. -/
theorem flag_entry_points_agree_at_bound :
    let written (digits : List Char) := String.ofList
      ([' '] ++ '+' :: (List.replicate 30 '0' ++ digits) ++ ['\u2028'])
    let last := "9223372036854775807".toList
    let next := "9223372036854775808".toList
    parse (written last) = .error ⟨"9223372036854775807"⟩ ∧
      ofJson (.string (written last)) =
        .error "unknown schema customization: 9223372036854775807" ∧
      parse (written next) = .error ⟨written next⟩ := by
  intro written last next
  have hleft : ∀ c ∈ [' '], isWhiteSpace c = true := List.all_eq_true.mp (by decide)
  have hright : ∀ c ∈ ['\u2028'], isWhiteSpace c = true := List.all_eq_true.mp (by decide)
  have hlast : Text.IsNumeral ('+' :: (List.replicate 30 '0' ++ last)) 9223372036854775807 :=
    .plus ((Text.writeNumber_toDigits 9223372036854775807).zeros 30)
  have hnext : Text.IsNumeral ('+' :: (List.replicate 30 '0' ++ next)) 9223372036854775808 :=
    .plus ((Text.writeNumber_toDigits 9223372036854775808).zeros 30)
  obtain ⟨hparse, -, hunknown, htold⟩ :=
    (flag_entry_points_agree hleft hlast hright).1 (by decide)
  have herror := hunknown (by intro choice; cases choice <;> decide)
  refine ⟨hparse.trans herror, ?_, (flag_entry_points_agree hleft hnext hright).2 (by decide)⟩
  refine (htold _ (List.mem_cons_of_mem _ List.mem_cons_self)).trans ?_
  rw [herror]
  rfl

end Customization

end ValueSchema

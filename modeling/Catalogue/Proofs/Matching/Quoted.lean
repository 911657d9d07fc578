import Mathlib
import Catalogue.Proofs.Matching

/-!
Numbers in quotation marks. What a number is shown as and the text that it was written as read as
the same number, or they are the same text, so that no comparison tells a number from its text. In
quotation marks the text stands for itself.
-/

namespace Catalogue

namespace Json.Value

structure Agrees (value other : Value) : Prop where
  named : ∀ parameter, value.isNamedBy parameter = other.isNamedBy parameter
  number : value.number?.map FiniteDouble.quanta = other.number?.map FiniteDouble.quanta

@[refl] theorem Agrees.refl (value : Value) : value.Agrees value := ⟨fun _ => rfl, rfl⟩

end Json.Value

theorem Text.quanta_of_key {left right : Text} (same : left.key = right.key) :
    left.number?.map FiniteDouble.quanta = right.number?.map FiniteDouble.quanta := by
  unfold Text.key at same
  cases leftReads : left.number? with
  | none =>
      cases rightReads : right.number? with
      | none => rfl
      | some number =>
          rw [leftReads, rightReads] at same
          exact absurd same nofun
  | some number =>
      cases rightReads : right.number? with
      | none =>
          rw [leftReads, rightReads] at same
          exact absurd same nofun
      | some other =>
          rw [leftReads, rightReads] at same
          exact congrArg some (Key.number.inj same)

namespace Json

open Grammar

theorem Value.agrees_of_key {value other : Value} (nameable : value.IsNameable)
    (nameableOther : other.IsNameable) (same : value.display.key = other.display.key) :
    value.Agrees other := by
  constructor
  · intro parameter
    rw [Bool.eq_iff_iff, isNamedBy_iff_key, isNamedBy_iff_key, same]
    simp only [nameable, nameableOther]
  · have quanta := Text.quanta_of_key same
    rwa [number?_display_of_nameable nameable, number?_display_of_nameable nameableOther] at quanta

/-! Tokens of numbers -/

def Value.IsNumber : Value → Prop
  | .integer _ | .double _ => True
  | _ => False

theorem Value.IsNumber.isNameable {value : Value} (number : value.IsNumber) :
    value.IsNameable := by
  cases value with
  | integer | double => trivial
  | null | boolean | string | array | object => exact number.elim

/-- Only a zero with a sign is not written as it is shown. -/
theorem key_of_integer {negative : Bool} {whole : Text} (isWhole : Whole whole) :
    (Text.ofInt (if negative then -(numeral whole : Int) else numeral whole)).key =
      Text.key (sign negative ++ whole) := by
  have spelled := isWhole.ofNat_numeral
  by_cases zero : numeral whole = 0
  · rw [zero, Text.ofNat_zero] at spelled
    rw [zero, ← spelled]
    cases negative <;> rfl
  · have magnitude : (if negative then -(numeral whole : Int) else numeral whole).natAbs =
        numeral whole := by
      split_ifs <;> omega
    have isNegative :
        decide ((if negative then -(numeral whole : Int) else numeral whole) < 0) = negative := by
      cases negative with
      | false => exact decide_eq_false (by rw [if_neg Bool.false_ne_true]; omega)
      | true => exact decide_eq_true (by rw [if_pos rfl]; omega)
    rw [ofInt_eq, magnitude, isNegative, spelled]

theorem Grammar.Scalar.key {token : Text} {value : Value} (spelled : Scalar .strict token value)
    (number : value.IsNumber) : value.display.key = token.key := by
  cases spelled with
  | null | true | false => exact number.elim
  | integer isWhole _ => rw [Value.display_integer, key_of_integer isWhole]
  | @double negative text magnitude double spelled rounds finite =>
      obtain ⟨value, same⟩ := Option.isSome_iff_exists.mp (finite rfl)
      have shown : (Value.double double).display.number? = some value :=
        (Value.number?_display_of_nameable number.isNameable).trans same
      rw [Text.key_of_number shown,
        Text.key_of_number ((number?_fractional spelled rounds).trans same)]
  | constant lenient _ => exact absurd lenient nofun

theorem Grammar.Scalar.agrees {token : Text} {value : Value}
    (spelled : Scalar .strict token value) (number : value.IsNumber) :
    value.Agrees (.string token) := by
  have text : (Value.string token).IsNameable := trivial
  exact Value.agrees_of_key number.isNameable text (spelled.key number)

theorem characters_of_isNumeral {text : Text} (numeral : ∀ code ∈ text, IsNumeral code) :
    Characters text text := by
  induction text with
  | nil => exact Characters.done
  | cons code text ih =>
      obtain ⟨first, rest⟩ := List.forall_mem_cons.mp numeral
      have plain : 0x20 ≤ code.val ∧ code ≠ CodePoint.quotationMark ∧
          code ≠ CodePoint.reverseSolidus := by
        rcases first with digit | rfl | rfl | rfl | rfl | rfl
        · have range := (CodePoint.isDigit_iff code).mp digit
          exact ⟨by omega, CodePoint.ne_of_isDigit digit rfl, CodePoint.ne_of_isDigit digit rfl⟩
        all_goals decide
      exact Characters.plain plain.1 plain.2.1 plain.2.2 (ih rest)

theorem Grammar.Scalar.isNumeral {token : Text} {value : Value}
    (spelled : Scalar .strict token value) (number : value.IsNumber) :
    ∀ code ∈ token, IsNumeral code := by
  cases spelled with
  | null | true | false => exact number.elim
  | @integer negative whole isWhole _ =>
      have numerals := isNumeral_spelled negative isWhole Fraction.absent Power.absent
      rwa [List.append_nil, List.append_nil] at numerals
  | @double negative _ _ _ spelled _ _ =>
      cases spelled with
      | fractional isWhole isFraction isPower _ =>
          rw [← List.append_assoc, ← List.append_assoc]
          exact isNumeral_spelled negative isWhole isFraction isPower
  | constant lenient _ => exact absurd lenient nofun

theorem Grammar.Scalar.quoted {token : Text} {value : Value}
    (spelled : Scalar .strict token value) (number : value.IsNumber) :
    Quoted (CodePoint.quotationMark :: (token ++ [CodePoint.quotationMark])) token :=
  Quoted.quoted (characters_of_isNumeral (spelled.isNumeral number))

end Json

end Catalogue

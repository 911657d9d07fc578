import Mathlib
import Catalogue.Proofs.Json.Grammar

/-!
Reading numbers. The reader takes from the front of a text what the grammar calls a number, and
takes all of it where no text follows that a number could go on with.
-/

namespace Catalogue.Json

open Grammar

def Stops (text : Text) : Prop :=
  ∀ code ∈ text.head?, code.isDigit = false ∧ code ≠ '.' ∧ code ≠ 'e' ∧ code ≠ 'E'

theorem Grammar.Whole.exists_cons {whole : Text} (spelled : Whole whole) :
    ∃ first rest, whole = first :: rest ∧ first.isDigit = true := by
  cases spelled with
  | zero => exact ⟨_, _, rfl, rfl⟩
  | digits digit _ _ => exact ⟨_, _, rfl, digit⟩

theorem Grammar.Whole.areDigits {whole : Text} (spelled : Whole whole) :
    Text.AreDigits whole := by
  cases spelled with
  | zero => simp [Text.AreDigits, CodePoint.isDigit]
  | digits digit _ rest => exact List.forall_mem_cons.mpr ⟨digit, rest⟩

theorem Grammar.Fraction.stops_append {fraction digits rest : Text}
    (spelled : Fraction fraction digits) (stops : ∀ code ∈ rest.head?, code.isDigit = false) :
    ∀ code ∈ (fraction ++ rest).head?, code.isDigit = false := by
  cases spelled with
  | absent => exact stops
  | present => simp [CodePoint.isDigit]

theorem Grammar.Power.stops_append {power rest : Text} {exponent : Int}
    (spelled : Power power exponent) (stops : Stops rest) :
    ∀ code ∈ (power ++ rest).head?, code.isDigit = false ∧ code ≠ '.' := by
  cases spelled with
  | absent => exact fun code first => ⟨(stops code first).1, (stops code first).2.1⟩
  | unsigned mark | positive mark | negative mark =>
      rcases mark with rfl | rfl <;> simp [CodePoint.isDigit]

theorem stops_nil : Stops [] := by
  simp [Stops]

def IsNumeral (code : CodePoint) : Prop :=
  code.isDigit = true ∨ code = '+' ∨ code = '-' ∨ code = '.' ∨ code = 'e' ∨ code = 'E'

theorem isNumeral_of_areDigits {digits : Text} (are : Text.AreDigits digits) :
    ∀ code ∈ digits, IsNumeral code :=
  fun code member => Or.inl (are code member)

theorem sign_isNumeral (negative : Bool) : ∀ code ∈ Grammar.sign negative, IsNumeral code := by
  cases negative <;> simp [Grammar.sign, IsNumeral]

theorem Grammar.Fraction.isNumeral {fraction digits : Text} (spelled : Fraction fraction digits) :
    ∀ code ∈ fraction, IsNumeral code := by
  cases spelled with
  | absent => exact fun _ member => absurd member List.not_mem_nil
  | present _ are =>
      exact List.forall_mem_cons.mpr ⟨by simp [IsNumeral], isNumeral_of_areDigits are⟩

theorem Grammar.IsPowerMark.isNumeral {mark : CodePoint} (isMark : IsPowerMark mark) :
    IsNumeral mark := by
  rcases isMark with rfl | rfl <;> simp [IsNumeral]

theorem Grammar.Power.isNumeral {power : Text} {exponent : Int} (spelled : Power power exponent) :
    ∀ code ∈ power, IsNumeral code := by
  cases spelled with
  | absent => exact fun _ member => absurd member List.not_mem_nil
  | unsigned isMark _ are =>
      exact List.forall_mem_cons.mpr ⟨isMark.isNumeral, isNumeral_of_areDigits are⟩
  | positive isMark _ are | negative isMark _ are =>
      refine List.forall_mem_cons.mpr ⟨isMark.isNumeral, List.forall_mem_cons.mpr ⟨?_, ?_⟩⟩
      · simp [IsNumeral]
      · exact isNumeral_of_areDigits are

theorem Grammar.isNumeral_spelled (negative : Bool) {whole fraction digits power : Text}
    {exponent : Int} (isWhole : Whole whole) (isFraction : Fraction fraction digits)
    (isPower : Power power exponent) :
    ∀ code ∈ sign negative ++ whole ++ fraction ++ power, IsNumeral code := by
  simp only [List.forall_mem_append]
  exact ⟨⟨⟨sign_isNumeral negative, isNumeral_of_areDigits isWhole.areDigits⟩,
    isFraction.isNumeral⟩, isPower.isNumeral⟩

namespace NumberToken

theorem takeMinus_sign (negative : Bool) {whole rest : Text} (spelled : Whole whole) :
    takeMinus (Grammar.sign negative ++ (whole ++ rest)) = (negative, whole ++ rest) := by
  cases negative with
  | true => rfl
  | false =>
      obtain ⟨first, digits, rfl, digit⟩ := spelled.exists_cons
      have different : first ≠ '-' := CodePoint.ne_of_isDigit digit rfl
      simp [takeMinus, Grammar.sign, different]

theorem of_takeMinus {text rest : Text} {negative : Bool}
    (taken : takeMinus text = (negative, rest)) : text = Grammar.sign negative ++ rest := by
  cases text with
  | nil =>
      obtain ⟨rfl, rfl⟩ := Prod.mk.inj taken
      rfl
  | cons code text =>
      simp only [takeMinus] at taken
      split at taken
      · rename_i minus
        obtain ⟨rfl, rfl⟩ := Prod.mk.inj taken
        rw [minus]
        rfl
      · obtain ⟨rfl, rfl⟩ := Prod.mk.inj taken
        rfl

theorem takeWhole?_whole {whole rest : Text} (spelled : Whole whole)
    (stops : ∀ code ∈ rest.head?, code.isDigit = false) :
    takeWhole? (whole ++ rest) = some (whole, rest) := by
  cases spelled with
  | zero => rfl
  | @digits first digits digit nonzero are =>
      have row : Text.AreDigits (first :: digits) := List.forall_mem_cons.mpr ⟨digit, are⟩
      have split := Text.span_isDigit row stops
      rw [List.cons_append] at split ⊢
      rw [takeWhole?, if_neg nonzero, if_pos digit, split]

theorem of_takeWhole? {text whole rest : Text} (taken : takeWhole? text = some (whole, rest)) :
    text = whole ++ rest ∧ Whole whole := by
  cases text with
  | nil => simp [takeWhole?] at taken
  | cons code text =>
      rw [takeWhole?] at taken
      split at taken
      · rename_i zero
        obtain ⟨rfl, rfl⟩ := Prod.mk.inj (Option.some.inj taken)
        exact ⟨rfl, zero ▸ Whole.zero⟩
      · rename_i nonzero
        split at taken
        · rename_i digit
          obtain ⟨shape, are⟩ := Text.of_span_isDigit (Option.some.inj taken)
          cases whole with
          | nil =>
              rw [List.nil_append] at shape
              subst shape
              have taken := Option.some.inj taken
              simp [digit] at taken
          | cons first digits =>
              obtain ⟨rfl, rfl⟩ := List.cons.inj shape
              exact ⟨rfl, Whole.digits digit nonzero (List.forall_mem_cons.mp are).2⟩
        · simp at taken

theorem takeFraction_fraction {fraction digits rest : Text} (spelled : Fraction fraction digits)
    (stops : ∀ code ∈ rest.head?, code.isDigit = false ∧ code ≠ '.') :
    takeFraction (fraction ++ rest) = (fraction, rest) := by
  cases spelled with
  | absent =>
      cases rest with
      | nil => rfl
      | cons code rest => simp [takeFraction, (stops code rfl).2]
  | present nonempty are =>
      have split := Text.span_isDigit are fun code first => (stops code first).1
      rw [List.cons_append, takeFraction, split]
      simp [nonempty]

theorem of_takeFraction {text fraction rest : Text}
    (taken : takeFraction text = (fraction, rest)) :
    text = fraction ++ rest ∧ ∃ digits, Fraction fraction digits := by
  cases text with
  | nil =>
      obtain ⟨rfl, rfl⟩ := Prod.mk.inj taken
      exact ⟨rfl, [], Fraction.absent⟩
  | cons point text =>
      rw [takeFraction] at taken
      cases split : text.span CodePoint.isDigit with
      | mk digits unread =>
          rw [split] at taken
          obtain ⟨shape, are⟩ := Text.of_span_isDigit split
          dsimp only at taken
          split at taken
          · rename_i present
            obtain ⟨rfl, rfl⟩ := Prod.mk.inj taken
            obtain ⟨rfl, nonempty⟩ := present
            exact ⟨by rw [shape, List.cons_append], digits, Fraction.present nonempty are⟩
          · obtain ⟨rfl, rfl⟩ := Prod.mk.inj taken
            exact ⟨rfl, [], Fraction.absent⟩

theorem takePower_power {power rest : Text} {exponent : Int} (spelled : Power power exponent)
    (stops : Stops rest) : takePower (power ++ rest) = (power, rest) := by
  have unsigned : ∀ code ∈ rest.head?, code.isDigit = false :=
    fun code first => (stops code first).1
  cases spelled with
  | absent =>
      cases rest with
      | nil => rfl
      | cons code rest =>
          have different := stops code rfl
          simp [takePower, different.2.2.1, different.2.2.2]
  | @unsigned mark digits isMark nonempty are =>
      have isMark : mark = 'e' ∨ mark = 'E' := isMark
      have noSign : takeSign (digits ++ rest) = ([], digits ++ rest) := by
        cases digits with
        | nil => exact absurd rfl nonempty
        | cons first digits =>
            have digit := are first List.mem_cons_self
            have different : ¬ (first = '+' ∨ first = '-') :=
              not_or.mpr ⟨CodePoint.ne_of_isDigit digit rfl, CodePoint.ne_of_isDigit digit rfl⟩
            simp [takeSign, different]
      rw [List.cons_append, takePower, noSign]
      dsimp only
      rw [Text.span_isDigit are unsigned]
      simp [isMark, nonempty]
  | @positive mark digits isMark nonempty are =>
      have isMark : mark = 'e' ∨ mark = 'E' := isMark
      rw [List.cons_append, List.cons_append, takePower, takeSign, if_pos (Or.inl rfl)]
      dsimp only
      rw [Text.span_isDigit are unsigned]
      simp [isMark, nonempty]
  | @negative mark digits isMark nonempty are =>
      have isMark : mark = 'e' ∨ mark = 'E' := isMark
      rw [List.cons_append, List.cons_append, takePower, takeSign, if_pos (Or.inr rfl)]
      dsimp only
      rw [Text.span_isDigit are unsigned]
      simp [isMark, nonempty]

theorem of_takeSign {text sign rest : Text} (taken : takeSign text = (sign, rest)) :
    text = sign ++ rest ∧ (sign = [] ∨ sign = ['+'] ∨ sign = ['-']) := by
  cases text with
  | nil =>
      obtain ⟨rfl, rfl⟩ := Prod.mk.inj taken
      exact ⟨rfl, Or.inl rfl⟩
  | cons code text =>
      rw [takeSign] at taken
      split at taken
      · rename_i signs
        obtain ⟨rfl, rfl⟩ := Prod.mk.inj taken
        rcases signs with rfl | rfl
        · exact ⟨rfl, Or.inr (Or.inl rfl)⟩
        · exact ⟨rfl, Or.inr (Or.inr rfl)⟩
      · obtain ⟨rfl, rfl⟩ := Prod.mk.inj taken
        exact ⟨rfl, Or.inl rfl⟩

theorem of_takePower {text power rest : Text} (taken : takePower text = (power, rest)) :
    text = power ++ rest ∧ ∃ exponent, Power power exponent := by
  cases text with
  | nil =>
      obtain ⟨rfl, rfl⟩ := Prod.mk.inj taken
      exact ⟨rfl, 0, Power.absent⟩
  | cons mark text =>
      rw [takePower] at taken
      cases signed : takeSign text with
      | mk sign digitsOn =>
          rw [signed] at taken
          dsimp only at taken
          cases split : digitsOn.span CodePoint.isDigit with
          | mk digits unread =>
              rw [split] at taken
              obtain ⟨rfl, signs⟩ := of_takeSign signed
              obtain ⟨rfl, are⟩ := Text.of_span_isDigit split
              dsimp only at taken
              split at taken
              · rename_i present
                obtain ⟨rfl, rfl⟩ := Prod.mk.inj taken
                obtain ⟨isMark, nonempty⟩ := present
                refine ⟨by simp, ?_⟩
                rcases signs with rfl | rfl | rfl
                · exact ⟨_, Power.unsigned isMark nonempty are⟩
                · exact ⟨_, Power.positive isMark nonempty are⟩
                · exact ⟨_, Power.negative isMark nonempty are⟩
              · obtain ⟨rfl, rfl⟩ := Prod.mk.inj taken
                exact ⟨rfl, 0, Power.absent⟩

theorem read?_spelled (negative : Bool) {whole fraction digits power rest : Text} {exponent : Int}
    (isWhole : Whole whole) (isFraction : Fraction fraction digits)
    (isPower : Power power exponent) (stops : Stops rest) :
    read? (Grammar.sign negative ++ whole ++ fraction ++ power ++ rest) =
      some (⟨negative, whole, fraction, power⟩, rest) := by
  have afterFraction := isPower.stops_append stops
  have afterWhole := isFraction.stops_append fun code first => (afterFraction code first).1
  simp only [List.append_assoc]
  rw [read?, takeMinus_sign negative isWhole]
  dsimp only
  rw [takeWhole?_whole isWhole afterWhole]
  dsimp only [Option.bind_eq_bind, Option.bind_some]
  rw [takeFraction_fraction isFraction afterFraction]
  dsimp only
  rw [takePower_power isPower stops]

theorem of_read? {text rest : Text} {token : NumberToken}
    (taken : read? text = some (token, rest)) :
    text = Grammar.sign token.negative ++ token.whole ++ token.fraction ++ token.power ++ rest ∧
      Whole token.whole ∧ (∃ digits, Fraction token.fraction digits) ∧
        ∃ exponent, Power token.power exponent := by
  rw [read?] at taken
  cases minus : takeMinus text with
  | mk negative unsigned =>
      rw [minus] at taken
      dsimp only at taken
      cases digits : takeWhole? unsigned with
      | none => simp [digits] at taken
      | some split =>
          obtain ⟨whole, afterWhole⟩ := split
          rw [digits] at taken
          dsimp only [Option.bind_eq_bind, Option.bind_some] at taken
          cases point : takeFraction afterWhole with
          | mk fraction afterFraction =>
              rw [point] at taken
              dsimp only at taken
              cases mark : takePower afterFraction with
              | mk power unread =>
                  rw [mark] at taken
                  obtain ⟨rfl, rfl⟩ := Prod.mk.inj (Option.some.inj taken)
                  obtain ⟨rfl, isWhole⟩ := of_takeWhole? digits
                  obtain ⟨rfl, isFraction⟩ := of_takeFraction point
                  obtain ⟨rfl, isPower⟩ := of_takePower mark
                  refine ⟨?_, isWhole, isFraction, isPower⟩
                  rw [of_takeMinus minus]
                  simp

end NumberToken

/-! The doubles that numbers denote -/

theorem Grammar.Power.power? {power : Text} {exponent : Int} (spelled : Power power exponent) :
    PlainDecimal.power? power = some exponent := by
  cases spelled with
  | absent => rfl
  | @unsigned mark digits isMark nonempty are =>
      have isMark : mark = 'e' ∨ mark = 'E' := isMark
      have noSign : PlainDecimal.takeSign digits = (false, digits) := by
        cases digits with
        | nil => rfl
        | cons first digits =>
            have digit := are first List.mem_cons_self
            have notMinus : first ≠ '-' := CodePoint.ne_of_isDigit digit rfl
            have notPlus : first ≠ '+' := CodePoint.ne_of_isDigit digit rfl
            rw [PlainDecimal.takeSign, if_neg notMinus, if_neg notPlus]
      rw [PlainDecimal.power?, if_pos isMark, noSign]
      dsimp only
      rw [if_pos ⟨nonempty, List.all_eq_true.mpr are⟩, numeral_eq]
      rfl
  | @positive mark digits isMark nonempty are =>
      have isMark : mark = 'e' ∨ mark = 'E' := isMark
      rw [PlainDecimal.power?, if_pos isMark, PlainDecimal.takeSign, if_neg (by decide),
        if_pos rfl]
      dsimp only
      rw [if_pos ⟨nonempty, List.all_eq_true.mpr are⟩, numeral_eq]
      rfl
  | @negative mark digits isMark nonempty are =>
      have isMark : mark = 'e' ∨ mark = 'E' := isMark
      rw [PlainDecimal.power?, if_pos isMark, PlainDecimal.takeSign, if_pos rfl]
      dsimp only
      rw [if_pos ⟨nonempty, List.all_eq_true.mpr are⟩, numeral_eq]
      rfl

theorem Grammar.Fraction.drop_one {fraction digits : Text} (spelled : Fraction fraction digits) :
    fraction.drop 1 = digits := by
  cases spelled <;> rfl

theorem ofDigits_value (whole digits : Text) (exponent : Int) :
    (Decimal.ofDigits whole digits exponent).value = magnitude whole digits exponent := by
  rw [magnitude, numeral_eq]
  rfl

theorem NumberToken.roundsTo_toDouble {negative : Bool} {whole fraction digits power : Text}
    {exponent : Int} (isFraction : Fraction fraction digits) (isPower : Power power exponent) :
    RoundsTo negative (magnitude whole digits exponent)
      (NumberToken.toDouble ⟨negative, whole, fraction, power⟩) := by
  rw [NumberToken.toDouble, isFraction.drop_one, isPower.power?, ← ofDigits_value]
  exact SignedDecimal.roundsTo_toDouble ⟨negative, Decimal.ofDigits whole digits exponent⟩

end Catalogue.Json

import Mathlib
import Catalogue.Json.Printer
import Catalogue.Proofs.Json.Strings
import Catalogue.Proofs.Text.Digits

/-!
Written strings. What is written between quotation marks denotes the string, code point for code
point. In ASCII this needs a string without a high surrogate right before a low one, since their
escapes side by side denote one code point.
-/

namespace Catalogue

def Text.HasSurrogatePair (text : Text) : Prop :=
  ∃ before high low after, text = before ++ high :: low :: after ∧
    high.isHighSurrogate = true ∧ low.isLowSurrogate = true

theorem Text.HasSurrogatePair.cons (code : CodePoint) {text : Text}
    (pair : text.HasSurrogatePair) : HasSurrogatePair (code :: text) := by
  obtain ⟨before, high, low, after, rfl, surrogates⟩ := pair
  exact ⟨code :: before, high, low, after, rfl, surrogates⟩

namespace Json

open Grammar

theorem hexDigit_digitChar {digit : Nat} (small : digit < 16) :
    HexDigit (CodePoint.ofChar (Nat.digitChar digit)) digit := by
  rw [← hexDigit?_eq_some]
  interval_cases digit <;> rfl

theorem unitEscape_unicodeEscape (unit : CodePoint) (small : unit.val < 0x10000) :
    UnitEscape (unicodeEscape unit.val) unit := by
  have digit (number : Nat) : number % 16 < 16 := Nat.mod_lt _ (by decide)
  refine UnitEscape.digits (hexDigit_digitChar (digit (unit.val / 16 / 16 / 16)))
    (hexDigit_digitChar (digit (unit.val / 16 / 16))) (hexDigit_digitChar (digit (unit.val / 16)))
    (hexDigit_digitChar (digit unit.val)) ?_
  omega

theorem UnitEscape.unique {first second left right : Text} {unit other : CodePoint}
    (firstSpelled : UnitEscape first unit) (secondSpelled : UnitEscape second other)
    (same : first ++ left = second ++ right) : unit = other ∧ left = right := by
  have more (rest : Text) : rest ++ [CodePoint.quotationMark] ≠ [] := by simp
  obtain ⟨digits, rfl, _, reads⟩ := readUnit?_of_unitEscape firstSpelled (more left)
  obtain ⟨others, rfl, _, readsOther⟩ := readUnit?_of_unitEscape secondSpelled (more right)
  simp only [List.cons_append, List.cons.injEq, true_and] at same
  rw [← List.append_assoc, same, List.append_assoc, readsOther, Option.some.injEq,
    Prod.mk.injEq] at reads
  exact ⟨reads.1.symm, (List.append_cancel_right reads.2).symm⟩

theorem Grammar.Characters.head_of_beginsWithLowSurrogate {characters string : Text}
    (spelled : Characters characters string) (begins : BeginsWithLowSurrogate characters) :
    ∃ low others, string = low :: others ∧ low.isLowSurrogate = true := by
  obtain ⟨escape, rest, low, shape, isEscape, isLow⟩ := begins
  cases spelled with
  | done =>
      cases isEscape
      exact absurd shape nofun
  | plain _ _ notSolidus _ =>
      cases isEscape
      exact absurd (List.cons.inj shape).1 notSolidus
  | short short _ =>
      cases isEscape
      obtain ⟨rfl, _⟩ := List.cons.inj (List.cons.inj shape).2
      cases short
  | unit begins _ _ =>
      obtain ⟨rfl, _⟩ := UnitEscape.unique begins isEscape shape
      exact ⟨_, _, rfl, isLow⟩
  | pair begins isHigh _ _ _ _ =>
      rw [List.append_assoc] at shape
      obtain ⟨rfl, _⟩ := UnitEscape.unique begins isEscape shape
      simp only [CodePoint.isHighSurrogate, CodePoint.isLowSurrogate, Bool.and_eq_true,
        decide_eq_true_eq] at isHigh isLow
      omega

/-! Characters -/

theorem characters_unit {code : CodePoint} {rest string : Text} (small : code.val < 0x10000)
    (spelled : Characters rest string)
    (apart : ¬ Text.HasSurrogatePair (code :: string)) :
    Characters (unicodeEscape code.val ++ rest) (code :: string) := by
  refine Characters.unit (unitEscape_unicodeEscape code small) ?_ spelled
  rintro ⟨isHigh, begins⟩
  obtain ⟨low, others, rfl, isLow⟩ := spelled.head_of_beginsWithLowSurrogate begins
  exact apart ⟨[], code, low, others, rfl, isHigh, isLow⟩

theorem characters_pair {code : CodePoint} {rest string : Text} (large : 0x10000 ≤ code.val)
    (spelled : Characters rest string) :
    Characters (code.units16.flatMap unicodeEscape ++ rest) (code :: string) := by
  have valid := code.isValid
  have highValid : 0xD800 + (code.val - 0x10000) / 0x400 < 0x110000 := by omega
  have lowValid : 0xDC00 + (code.val - 0x10000) % 0x400 < 0x110000 := by omega
  have isHigh : CodePoint.isHighSurrogate ⟨_, highValid⟩ = true := by
    simp only [CodePoint.isHighSurrogate, Bool.and_eq_true, decide_eq_true_eq]
    omega
  have isLow : CodePoint.isLowSurrogate ⟨_, lowValid⟩ = true := by
    simp only [CodePoint.isLowSurrogate, Bool.and_eq_true, decide_eq_true_eq]
    omega
  have high := unitEscape_unicodeEscape ⟨_, highValid⟩ (by dsimp only; omega)
  have low := unitEscape_unicodeEscape ⟨_, lowValid⟩ (by dsimp only; omega)
  have value : code.val = 0x10000 +
      ((0xD800 + (code.val - 0x10000) / 0x400) - 0xD800) * 0x400 +
        ((0xDC00 + (code.val - 0x10000) % 0x400) - 0xDC00) := by omega
  have pair := Characters.pair high isHigh low isLow value spelled
  rw [CodePoint.units16, if_neg (Nat.not_lt.mpr large)]
  simpa using pair

theorem characters_writeCode (style : Style) {code : CodePoint} {rest string : Text}
    (spelled : Characters rest string)
    (apart : style.asciiOnly = true → ¬ Text.HasSurrogatePair (code :: string)) :
    Characters (writeCode style code ++ rest) (code :: string) := by
  unfold writeCode
  split_ifs with marks backspace tabulator lineFeed formFeed carriageReturn control other
  · rcases marks with rfl | rfl
    · exact Characters.short ShortEscape.quotationMark spelled
    · exact Characters.short ShortEscape.reverseSolidus spelled
  · exact Characters.short (ShortEscape.backspace backspace) spelled
  · exact Characters.short (ShortEscape.tabulator tabulator) spelled
  · exact Characters.short (ShortEscape.lineFeed lineFeed) spelled
  · exact Characters.short (ShortEscape.formFeed formFeed) spelled
  · exact Characters.short (ShortEscape.carriageReturn carriageReturn) spelled
  · refine Characters.unit (unitEscape_unicodeEscape code (by omega)) ?_ spelled
    rintro ⟨isHigh, _⟩
    simp only [CodePoint.isHighSurrogate, Bool.and_eq_true, decide_eq_true_eq] at isHigh
    omega
  · by_cases small : code.val < 0x10000
    · rw [CodePoint.units16, if_pos small, List.flatMap_singleton]
      exact characters_unit small spelled (apart other.1)
    · exact characters_pair (Nat.le_of_not_lt small) spelled
  · rw [not_or] at marks
    exact Characters.plain (Nat.le_of_not_lt control) marks.1 marks.2 spelled

theorem characters_flatMap (style : Style) {string : Text}
    (apart : style.asciiOnly = true → ¬ string.HasSurrogatePair) :
    Characters (string.flatMap (writeCode style)) string := by
  induction string with
  | nil => exact Characters.done
  | cons code string ih =>
      rw [List.flatMap_cons]
      exact characters_writeCode style
        (ih fun ascii pair => apart ascii (pair.cons code)) apart

theorem writeString_quoted (style : Style) {string : Text}
    (apart : style.asciiOnly = true → ¬ string.HasSurrogatePair) :
    ∃ text, Quoted text string ∧ ∀ after, writeString style string after = text ++ after := by
  refine ⟨_, Quoted.quoted (characters_flatMap style apart), fun after => ?_⟩
  simp [writeString]

end Json

end Catalogue

import Mathlib
import Catalogue.Text.CodePoint

/-!
Rows of decimal digits and the numbers that they write. The digits of a number read back as the
number, begin with a zero for zero only, and are no more than any row of digits of the same value.
-/

namespace Catalogue

@[simp] theorem CodePoint.ofChar_val (character : Char) :
    (CodePoint.ofChar character).val = character.toNat := rfl

@[simp] theorem CodePoint.ofChar_inj {left right : Char} :
    CodePoint.ofChar left = CodePoint.ofChar right ↔ left = right := by
  rw [CodePoint.ext_iff, ofChar_val, ofChar_val, Char.toNat_inj]

theorem CodePoint.isDigit_iff (code : CodePoint) :
    code.isDigit = true ↔ 0x30 ≤ code.val ∧ code.val ≤ 0x39 := by
  simp [CodePoint.isDigit]

theorem CodePoint.isDigit_ofChar {character : Char} (digit : character.isDigit = true) :
    (CodePoint.ofChar character).isDigit = true := by
  simp only [Char.isDigit, Bool.and_eq_true, decide_eq_true_eq] at digit
  exact (CodePoint.isDigit_iff _).mpr digit

theorem CodePoint.ne_of_isDigit {code other : CodePoint} (digit : code.isDigit = true)
    (notDigit : other.isDigit = false) : code ≠ other := by
  rintro rfl
  simp [digit] at notDigit

namespace Text

def AreDigits (text : Text) : Prop := ∀ code ∈ text, code.isDigit = true

theorem AreDigits.append {left right : Text} (leftDigits : AreDigits left)
    (rightDigits : AreDigits right) : AreDigits (left ++ right) := by
  intro code member
  rcases List.mem_append.mp member with inLeft | inRight
  · exact leftDigits code inLeft
  · exact rightDigits code inRight

theorem AreDigits.of_subset {digits part : Text} (are : AreDigits digits) (within : part ⊆ digits) :
    AreDigits part :=
  fun code member => are code (within member)

theorem areDigits_zeros (count : Nat) : AreDigits (List.replicate count '0') := by
  intro code member
  rw [List.eq_of_mem_replicate member]
  rfl

theorem span_isDigit {digits rest : Text} (are : AreDigits digits)
    (stops : ∀ code ∈ rest.head?, code.isDigit = false) :
    (digits ++ rest).span CodePoint.isDigit = (digits, rest) := by
  rw [List.span_eq_takeWhile_dropWhile, List.takeWhile_append_of_pos are,
    List.dropWhile_append_of_pos are]
  cases rest with
  | nil => simp
  | cons code rest => simp [stops code rfl]

theorem of_span_isDigit {text digits rest : Text}
    (split : text.span CodePoint.isDigit = (digits, rest)) :
    text = digits ++ rest ∧ AreDigits digits := by
  rw [List.span_eq_takeWhile_dropWhile, Prod.mk.injEq] at split
  obtain ⟨rfl, rfl⟩ := split
  exact ⟨List.takeWhile_append_dropWhile.symm, fun code member => List.mem_takeWhile_imp member⟩

theorem digitsValue_append_code (digits : Text) (code : CodePoint) :
    digitsValue (digits ++ [code]) = digitsValue digits * 10 + (code.val - 0x30) := by
  simp [digitsValue]

theorem digitsValue_append (left right : Text) :
    digitsValue (left ++ right) = digitsValue left * 10 ^ right.length + digitsValue right := by
  induction right using List.reverseRecOn with
  | nil => simp [digitsValue]
  | append_singleton right code ih =>
      rw [← List.append_assoc, digitsValue_append_code, ih, digitsValue_append_code,
        List.length_append, List.length_singleton]
      ring

@[simp] theorem digitsValue_zeros (count : Nat) :
    digitsValue (List.replicate count '0') = 0 := by
  induction count with
  | zero => rfl
  | succ count ih =>
      rw [List.replicate_succ', digitsValue_append_code, ih]
      rfl

theorem digitsValue_lt {digits : Text} (are : AreDigits digits) :
    digitsValue digits < 10 ^ digits.length := by
  induction digits using List.reverseRecOn with
  | nil => simp [digitsValue]
  | append_singleton digits code ih =>
      have earlier := ih (are.of_subset (List.subset_append_left _ _))
      have last := (CodePoint.isDigit_iff code).mp (are code (by simp))
      rw [digitsValue_append_code, List.length_append, List.length_singleton, Nat.pow_succ]
      omega

theorem digitsValue_map_ofChar (characters : List Char) :
    digitsValue (characters.map CodePoint.ofChar) = Nat.ofDigitChars 10 characters 0 := by
  simp [digitsValue, Nat.ofDigitChars, List.foldl_map, Nat.mul_comm]

/-! The digits of a number -/

@[simp] theorem digitsValue_ofNat (number : Nat) : digitsValue (ofNat number) = number := by
  rw [ofNat, digitsValue_map_ofChar, Nat.ofDigitChars_ten_toDigits]

theorem areDigits_ofNat (number : Nat) : AreDigits (ofNat number) := by
  intro code member
  obtain ⟨character, inDigits, rfl⟩ := List.mem_map.mp member
  exact CodePoint.isDigit_ofChar
    (Nat.isDigit_of_mem_toDigits (by decide) (by decide) inDigits)

@[simp] theorem ofNat_ne_nil (number : Nat) : ofNat number ≠ [] := by
  simp [ofNat]

@[simp] theorem ofNat_zero : ofNat 0 = ['0'] := by
  simp [ofNat]

theorem length_ofNat_le {number count : Nat} (positive : 0 < count) (bound : number < 10 ^ count) :
    (ofNat number).length ≤ count := by
  rw [ofNat, List.length_map]
  exact (Nat.length_toDigits_le_iff (by decide) positive).mpr bound

/-- A leading zero would leave the other digits too few for the number. -/
theorem head_ofNat_ne_zero {number : Nat} (nonzero : number ≠ 0) {code : CodePoint} {digits : Text}
    (spelled : ofNat number = code :: digits) : code ≠ '0' := by
  rintro rfl
  have value := digitsValue_ofNat number
  have are := areDigits_ofNat number
  rw [spelled] at value are
  have bound := digitsValue_lt (are.of_subset (List.subset_cons_self _ _))
  have rest : digitsValue digits = number := by
    rw [← value, ← List.singleton_append, digitsValue_append]
    simp [digitsValue]
  rw [rest] at bound
  rcases Nat.eq_zero_or_pos digits.length with empty | positive
  · rw [empty] at bound
    omega
  · have few := length_ofNat_le positive bound
    rw [spelled, List.length_cons] at few
    omega

theorem ofNat_of_isDigit {code : CodePoint} (digit : code.isDigit = true) :
    ofNat (code.val - 0x30) = [code] := by
  obtain ⟨low, high⟩ := (CodePoint.isDigit_iff code).mp digit
  have small : code.val - 0x30 < 10 := by omega
  have value : (Nat.digitChar (code.val - 0x30)).toNat = code.val - 0x30 + 0x30 := by
    interval_cases code.val - 0x30 <;> rfl
  rw [ofNat, Nat.toDigits_of_lt_base small, List.map_singleton, List.singleton_inj,
    CodePoint.ext_iff, CodePoint.ofChar_val, value]
  omega

theorem ofNat_digitsValue {first : CodePoint} {rest : Text} (digit : first.isDigit = true)
    (nonzero : first ≠ '0') (are : AreDigits rest) :
    ofNat (digitsValue (first :: rest)) = first :: rest ∧ 0 < digitsValue (first :: rest) := by
  induction rest using List.reverseRecOn with
  | nil =>
      have value : digitsValue [first] = first.val - 0x30 := by simp [digitsValue]
      have notZero : first.val ≠ 0x30 := fun same => nonzero (CodePoint.ext same)
      obtain ⟨low, _⟩ := (CodePoint.isDigit_iff first).mp digit
      rw [value, ofNat_of_isDigit digit]
      exact ⟨rfl, by omega⟩
  | append_singleton rest code ih =>
      obtain ⟨earlier, positive⟩ := ih (are.of_subset (List.subset_append_left _ _))
      have last : code.isDigit = true := are code (by simp)
      obtain ⟨_, high⟩ := (CodePoint.isDigit_iff code).mp last
      have small : code.val - 0x30 < 10 := by omega
      rw [← List.cons_append, digitsValue_append_code, Nat.mul_comm]
      refine ⟨?_, by omega⟩
      calc ofNat (10 * digitsValue (first :: rest) + (code.val - 0x30))
          = ofNat (digitsValue (first :: rest)) ++ ofNat (code.val - 0x30) := by
            rw [ofNat, ← Nat.toDigits_append_toDigits (by decide) positive small, List.map_append]
            rfl
        _ = first :: rest ++ [code] := by rw [earlier, ofNat_of_isDigit last]

theorem exists_eq_dropTrailing_append (unwanted : CodePoint) (text : Text) :
    ∃ count, text = text.dropTrailing unwanted ++ List.replicate count unwanted := by
  refine ⟨(text.reverse.takeWhile (· = unwanted)).length, ?_⟩
  have trailing : text.reverse.takeWhile (· = unwanted) =
      List.replicate (text.reverse.takeWhile (· = unwanted)).length unwanted := by
    apply List.eq_replicate_length.mpr
    intro code member
    simpa using List.mem_takeWhile_imp member
  rw [dropTrailing, ← List.reverse_replicate, ← List.reverse_append, ← trailing,
    List.takeWhile_append_dropWhile, List.reverse_reverse]

end Text

end Catalogue

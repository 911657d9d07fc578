import Mathlib
import Catalogue.Proofs.Json.Number
import Catalogue.Proofs.Number.Range
import Catalogue.Proofs.Number.Shortest

/-!
Written numbers. Whole numbers are written as the grammar has them. A finite double is written with
a fraction or a power of ten in every layout, and what is written rounds to the same double.
-/

namespace Catalogue.Json

open Grammar

theorem whole_ofNat (number : Nat) : Whole (Text.ofNat number) := by
  by_cases zero : number = 0
  · rw [zero, Text.ofNat_zero]
    exact Whole.zero
  · cases spelled : Text.ofNat number with
    | nil => exact absurd spelled (Text.ofNat_ne_nil number)
    | cons first rest =>
        have are := Text.areDigits_ofNat number
        rw [spelled] at are
        exact Whole.digits (are first List.mem_cons_self) (Text.head_ofNat_ne_zero zero spelled)
          (List.forall_mem_cons.mp are).2

theorem Grammar.Whole.ofNat_numeral {whole : Text} (spelled : Whole whole) :
    Text.ofNat (numeral whole) = whole := by
  rw [numeral_eq]
  cases spelled with
  | zero => rfl
  | digits digit nonzero are => exact (Text.ofNat_digitsValue digit nonzero are).1

theorem ofInt_eq (number : Int) :
    Text.ofInt number = Grammar.sign (number < 0) ++ Text.ofNat number.natAbs := by
  cases number with
  | ofNat number => simp [Text.ofInt, Grammar.sign]
  | negSucc number => simp [Text.ofInt, Grammar.sign]

theorem signed_natAbs (number : Int) :
    (if decide (number < 0) = true then -(number.natAbs : Int) else number.natAbs) = number := by
  split
  · rename_i negative
    rw [decide_eq_true_eq] at negative
    omega
  · rename_i nonneg
    rw [decide_eq_true_eq] at nonneg
    omega

theorem magnitude_eq {whole digits : Text} {exponent : Int} (significant : Text) (zeros : Nat)
    (place : Int)
    (value : Text.digitsValue (whole ++ digits) = Text.digitsValue significant * 10 ^ zeros)
    (power : exponent - digits.length + zeros = place - significant.length) :
    magnitude whole digits exponent =
      Text.digitsValue significant * 10 ^ (place - significant.length) := by
  rw [magnitude, numeral_eq, value, Nat.cast_mul, Nat.cast_pow, Nat.cast_ofNat, mul_assoc,
    ← zpow_natCast, ← zpow_add₀ (by norm_num), ← power, add_comm]

theorem power_exponent (layout : DoubleLayout) (exponent : Int) :
    Power (CodePoint.ofChar 'e' :: CodePoint.ofChar (if exponent < 0 then '-' else '+') ::
      (DoubleLayout.zeros (layout.powerDigits - (Text.ofNat exponent.natAbs).length) ++
        Text.ofNat exponent.natAbs)) exponent := by
  have mark : IsPowerMark 'e' := Or.inl rfl
  have digits := (Text.areDigits_zeros
    (layout.powerDigits - (Text.ofNat exponent.natAbs).length)).append
      (Text.areDigits_ofNat exponent.natAbs)
  have value : Text.digitsValue (DoubleLayout.zeros
      (layout.powerDigits - (Text.ofNat exponent.natAbs).length) ++
        Text.ofNat exponent.natAbs) = exponent.natAbs := by
    rw [DoubleLayout.zeros, Text.digitsValue_append, Text.digitsValue_zeros,
      Text.digitsValue_ofNat]
    omega
  split_ifs with negative
  · have power := Power.negative mark (by simp) digits
    rw [← DoubleLayout.zeros, numeral_eq, value] at power
    convert power using 1
    omega
  · have power := Power.positive mark (by simp) digits
    rw [← DoubleLayout.zeros, numeral_eq, value] at power
    convert power using 1
    omega

section

variable {first : CodePoint} {others : Text} (digit : first.isDigit = true)
  (nonzero : first ≠ '0') (are : Text.AreDigits others)

include digit nonzero are

theorem fractional_positional (place : Int) :
    Fractional (DoubleLayout.positional (first :: others) place)
      (Text.digitsValue (first :: others) * 10 ^ (place - (first :: others).length)) := by
  have row : Text.AreDigits (first :: others) := List.forall_mem_cons.mpr ⟨digit, are⟩
  unfold DoubleLayout.positional
  split_ifs with small large
  · have fraction : Fraction
        (CodePoint.ofChar '.' :: (DoubleLayout.zeros (-place).toNat ++ first :: others)) _ :=
      Fraction.present (by simp) ((Text.areDigits_zeros _).append row)
    have spelled := Fractional.fractional Whole.zero fraction Power.absent (Or.inl (by simp))
    rw [magnitude_eq (first :: others) 0 place] at spelled
    · simpa [DoubleLayout.zeros, Text.ofString] using spelled
    · rw [DoubleLayout.zeros, Text.digitsValue_append, Text.digitsValue_append,
        Text.digitsValue_zeros]
      simp [Text.digitsValue]
    · simp only [DoubleLayout.zeros, List.length_append, List.length_replicate, List.length_cons]
      omega
  · have whole : Whole ((first :: others) ++
        DoubleLayout.zeros (place.toNat - (first :: others).length)) :=
      Whole.digits digit nonzero (are.append (Text.areDigits_zeros _))
    have fraction : Fraction (CodePoint.ofChar '.' :: ['0']) _ :=
      Fraction.present (by simp) (Text.areDigits_zeros 1)
    have spelled := Fractional.fractional whole fraction Power.absent (Or.inl (by simp))
    rw [magnitude_eq (first :: others) (place.toNat - (first :: others).length + 1) place]
      at spelled
    · simpa [DoubleLayout.zeros, Text.ofString] using spelled
    · rw [DoubleLayout.zeros, Text.digitsValue_append, Text.digitsValue_append,
        Text.digitsValue_zeros]
      simp [Text.digitsValue, pow_succ, mul_assoc]
    · simp only [List.length_cons, List.length_nil] at large ⊢
      omega
  · obtain ⟨count, positive⟩ : ∃ count : Nat, place = count + 1 := ⟨place.toNat - 1, by omega⟩
    have toNat : place.toNat = count + 1 := by omega
    rw [toNat] at large ⊢
    have whole : Whole (first :: others.take count) :=
      Whole.digits digit nonzero (are.of_subset (List.take_subset _ _))
    have fraction : Fraction (CodePoint.ofChar '.' :: others.drop count) _ :=
      Fraction.present (by simpa using large) (are.of_subset (List.drop_subset _ _))
    have spelled := Fractional.fractional whole fraction Power.absent (Or.inl (by simp))
    rw [magnitude_eq (first :: others) 0 place] at spelled
    · simpa [Text.ofString] using spelled
    · simp
    · simp only [List.length_cons, List.length_drop] at large ⊢
      omega

theorem fractional_scientific (layout : DoubleLayout) (place : Int) :
    Fractional (layout.scientific (first :: others) (place - 1))
      (Text.digitsValue (first :: others) * 10 ^ (place - (first :: others).length)) := by
  have whole : Whole [first] := Whole.digits digit nonzero (by simp [Text.AreDigits])
  have fraction : Fraction (if others = [] then [] else CodePoint.ofChar '.' :: others) others := by
    split_ifs with empty
    · rw [empty]
      exact Fraction.absent
    · exact Fraction.present empty are
  have power := power_exponent layout (place - 1)
  have spelled := Fractional.fractional whole fraction power (Or.inr (by split_ifs <;> simp))
  rw [magnitude_eq (first :: others) 0 place] at spelled
  · convert spelled using 1
    unfold DoubleLayout.scientific
    cases others <;> split_ifs <;> simp [Text.ofString] at *
  · simp
  · simp only [List.length_cons]
    omega

end

/-! Finite doubles -/

theorem digits_significant {decimal : Decimal} (nonzero : decimal.coefficient ≠ 0) :
    ∃ first others, decimal.digits.1 = first :: others ∧ first.isDigit = true ∧ first ≠ '0' ∧
      Text.AreDigits others ∧
      (Text.digitsValue (first :: others) : ℚ) *
        10 ^ (decimal.digits.2 - (first :: others).length) = decimal.value := by
  obtain ⟨count, spelled⟩ :=
    Text.exists_eq_dropTrailing_append '0' (Text.ofNat decimal.coefficient)
  have value := Text.digitsValue_ofNat decimal.coefficient
  have are := Text.areDigits_ofNat decimal.coefficient
  cases kept : (Text.ofNat decimal.coefficient).dropTrailing '0' with
  | nil =>
      rw [spelled, kept, List.nil_append, Text.digitsValue_zeros] at value
      exact absurd value.symm nonzero
  | cons first others =>
      rw [kept] at spelled
      have leading := Text.head_ofNat_ne_zero nonzero spelled
      rw [spelled] at are value
      have row := are.of_subset (List.subset_append_left _ _)
      rw [Text.digitsValue_append, Text.digitsValue_zeros, List.length_replicate] at value
      refine ⟨first, others, kept, row first List.mem_cons_self, leading,
        (List.forall_mem_cons.mp row).2, ?_⟩
      have place : decimal.digits.2 - (first :: others).length = count + decimal.exponent := by
        simp only [Decimal.digits, spelled, List.length_append, List.length_replicate]
        omega
      rw [place, zpow_add₀ (by norm_num), zpow_natCast, ← mul_assoc, Decimal.value]
      congr 1
      exact_mod_cast value

theorem fractional_magnitude (layout : DoubleLayout) {rank : Nat} (below : rank < rankLimit) :
    ∃ value, Fractional (layout.magnitude rank) value ∧ IsNearestRank value rank := by
  unfold DoubleLayout.magnitude
  split_ifs with zero
  · have fraction : Fraction (CodePoint.ofChar '.' :: ['0']) _ :=
      Fraction.present (by simp) (Text.areDigits_zeros 1)
    have spelled := Fractional.fractional Whole.zero fraction Power.absent (Or.inl (by simp))
    have shape : DoubleLayout.positional [] 0 ++ DoubleLayout.zeros 1 =
        [CodePoint.ofChar '0'] ++ (CodePoint.ofChar '.' :: ['0']) ++ [] := by
      simp [DoubleLayout.positional, DoubleLayout.zeros, Text.ofString]
    refine ⟨_, shape ▸ spelled, ?_⟩
    have value : magnitude ['0'] ['0'] 0 = magnitudeOfRank 0 := by
      simp [magnitude, numeral_eq, Text.digitsValue]
    rw [value, zero]
    exact isNearestRank_magnitudeOfRank 0
  · obtain ⟨first, others, digits, digit, nonzero, are, value⟩ :=
      digits_significant (shortestDecimal_coefficient_ne_zero below zero)
    refine ⟨(shortestDecimal rank).value, ?_, shortestDecimal_isNearest below zero⟩
    rw [← value]
    dsimp only
    rw [digits]
    split_ifs
    · exact fractional_positional digit nonzero are _
    · exact fractional_scientific digit nonzero are layout _

theorem write_eq_sign_append (layout : DoubleLayout) (value : FiniteDouble) :
    layout.write (.finite value) = Grammar.sign value.negative ++ layout.magnitude value.rank := by
  cases value with
  | mk negative rank below => cases negative <;> rfl

theorem scalar_write_double (policy : Policy) (layout : DoubleLayout) (value : FiniteDouble) :
    Scalar policy (layout.write (.finite value)) (.double (.finite value)) := by
  obtain ⟨exact, spelled, nearest⟩ := fractional_magnitude layout value.rank_lt
  rw [write_eq_sign_append]
  exact Scalar.double spelled (RoundsTo.finite_iff.mpr ⟨rfl, nearest⟩) (fun _ => rfl)

theorem scalar_write_integer (policy : Policy) {number : Int}
    (few : (Text.ofNat number.natAbs).length ≤ digitLimit) :
    Scalar policy (Text.ofInt number) (.integer number) := by
  have spelled : Scalar policy (Grammar.sign (number < 0) ++ Text.ofNat number.natAbs) _ :=
    Scalar.integer (whole_ofNat number.natAbs) few
  rw [numeral_eq, Text.digitsValue_ofNat, signed_natAbs, ← ofInt_eq] at spelled
  exact spelled

end Catalogue.Json

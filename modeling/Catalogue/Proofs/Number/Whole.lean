import Mathlib
import Catalogue.Proofs.Number.Range
import Catalogue.Proofs.Text.Digits

/-!
Whole numbers as doubles and as texts. Magnitudes up to 2^53 are doubles themselves, so that two
whole numbers can share a double only from there on. Past the finite doubles, and as texts, whole
numbers are never confused.
-/

namespace Catalogue

theorem exists_magnitudeOfRank {magnitude : Nat} (small : magnitude ≤ 2 ^ 53) :
    ∃ rank, magnitudeOfRank rank = magnitude := by
  by_cases zero : magnitude = 0
  · exact ⟨0, by simp [zero]⟩
  by_cases top : magnitude = 2 ^ 53
  · refine ⟨1074 * 2 ^ 52 + 2 ^ 53, ?_⟩
    rw [magnitudeOfRank_spacing (Or.inr (by norm_num)) le_rfl, div_self (by positivity), mul_one,
      top]
  -- The significand takes up 53 bits, as many as a double has.
  obtain ⟨shift, binade⟩ : ∃ shift, magnitude.log2 + shift = 52 := by
    have below : magnitude.log2 < 53 := (Nat.log2_lt zero).mpr (by omega)
    exact ⟨52 - magnitude.log2, by omega⟩
  have low : 2 ^ 52 ≤ magnitude * 2 ^ shift := by
    rw [← binade, Nat.pow_add]
    exact Nat.mul_le_mul_right _ (Nat.log2_self_le zero)
  have high : magnitude * 2 ^ shift ≤ 2 ^ 53 := by
    have below : magnitude ≤ 2 ^ (magnitude.log2 + 1) := Nat.lt_log2_self.le
    calc magnitude * 2 ^ shift ≤ 2 ^ (magnitude.log2 + 1) * 2 ^ shift :=
          Nat.mul_le_mul_right _ below
      _ = 2 ^ 53 := by rw [← Nat.pow_add, Nat.add_right_comm, binade]
  refine ⟨(1074 - shift) * 2 ^ 52 + magnitude * 2 ^ shift, ?_⟩
  have whole : (2 : ℚ) ^ shift * 2 ^ (1074 - shift) = 2 ^ 1074 := by
    rw [← pow_add]
    congr 1
    omega
  rw [magnitudeOfRank_spacing (Or.inr low) high, Nat.cast_mul, Nat.cast_pow, Nat.cast_ofNat,
    mul_assoc, ← mul_div_assoc, whole, div_self (by positivity), mul_one]

theorem magnitudeOfRank_of_isNearestRank {magnitude rank : Nat} (small : magnitude ≤ 2 ^ 53)
    (nearest : IsNearestRank magnitude rank) : magnitudeOfRank rank = magnitude := by
  obtain ⟨exact, same⟩ := exists_magnitudeOfRank small
  rw [← same] at nearest ⊢
  rw [nearest.unique (isNearestRank_magnitudeOfRank exact)]

/-- Nothing else rounds to a magnitude below 2^53, since 2^53 is nearer to all that is greater. -/
theorem eq_of_isNearestRank {left right rank : Nat} (small : left < 2 ^ 53)
    (leftNearest : IsNearestRank left rank) (rightNearest : IsNearestRank right rank) :
    left = right := by
  have exact := magnitudeOfRank_of_isNearestRank small.le leftNearest
  by_cases bound : right ≤ 2 ^ 53
  · have same := magnitudeOfRank_of_isNearestRank bound rightNearest
    rw [exact] at same
    exact_mod_cast same
  · obtain ⟨top, power⟩ := exists_magnitudeOfRank (le_refl (2 ^ 53))
    have nearer := rightNearest.nearest top
    have order : (left : ℚ) < (2 ^ 53 : Nat) := by exact_mod_cast small
    have above : ((2 ^ 53 : Nat) : ℚ) < right := by exact_mod_cast Nat.lt_of_not_le bound
    rw [exact, power, abs_of_pos (by linarith), abs_of_pos (by linarith)] at nearer
    linarith

/-! Whole numbers that share a double -/

/-- Two different whole numbers are nearest to one finite double. -/
def SharesDouble (left right : Int) : Prop :=
  left ≠ right ∧ ∃ double, Double.ofInt left = .finite double ∧ Double.ofInt right = .finite double

theorem SharesDouble.symm {left right : Int} (shares : SharesDouble left right) :
    SharesDouble right left := by
  obtain ⟨different, double, leftDouble, rightDouble⟩ := shares
  exact ⟨different.symm, double, rightDouble, leftDouble⟩

theorem Double.isNearestRank_of_ofInt {number : Int} {double : FiniteDouble}
    (rounded : Double.ofInt number = .finite double) :
    IsNearestRank number.natAbs double.rank ∧ double.negative = decide (number < 0) := by
  have rounds := Double.roundsTo_ofInt number
  rw [rounded] at rounds
  exact (RoundsTo.finite_iff.mp rounds).symm

theorem SharesDouble.not_small {left right : Int} (shares : SharesDouble left right) :
    2 ^ 53 ≤ left.natAbs := by
  obtain ⟨different, double, leftDouble, rightDouble⟩ := shares
  obtain ⟨leftNearest, leftSign⟩ := Double.isNearestRank_of_ofInt leftDouble
  obtain ⟨rightNearest, rightSign⟩ := Double.isNearestRank_of_ofInt rightDouble
  by_contra small
  have magnitudes := eq_of_isNearestRank (by omega) leftNearest rightNearest
  have signs : left < 0 ↔ right < 0 := by
    rw [← decide_eq_decide, ← leftSign, rightSign]
  omega

theorem Double.eq_zero_of_ofInt {number : Int} {double : FiniteDouble}
    (rounded : Double.ofInt number = .finite double) (zero : double.rank = 0) : number = 0 := by
  obtain ⟨nearest, _⟩ := isNearestRank_of_ofInt rounded
  have none : IsNearestRank ((0 : Nat) : ℚ) double.rank := by
    have rung := isNearestRank_magnitudeOfRank 0
    rw [magnitudeOfRank_zero] at rung
    rwa [Nat.cast_zero, zero]
  have same := eq_of_isNearestRank (by decide) none nearest
  omega

theorem Text.ofNat_injective : Function.Injective Text.ofNat := by
  intro left right same
  rw [← digitsValue_ofNat left, same, digitsValue_ofNat]

theorem Text.ofInt_injective : Function.Injective Text.ofInt := by
  intro left right same
  have unsigned (number other : Nat) : CodePoint.ofChar '-' :: ofNat number ≠ ofNat other := by
    intro spelled
    have digits := areDigits_ofNat other
    rw [← spelled] at digits
    exact absurd (digits _ List.mem_cons_self) nofun
  cases left with
  | ofNat left =>
      cases right with
      | ofNat right => rw [ofNat_injective same]
      | negSucc right => exact absurd same.symm (unsigned _ _)
  | negSucc left =>
      cases right with
      | ofNat right => exact absurd same (unsigned _ _)
      | negSucc right =>
          have magnitudes := ofNat_injective (List.cons.inj same).2
          rw [Nat.succ.inj magnitudes]

end Catalogue

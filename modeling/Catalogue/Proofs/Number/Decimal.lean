import Mathlib
import Catalogue.Number.Decimal
import Catalogue.Proofs.Number.Rounding

/-!
Decimals round correctly: a decimal becomes the double that is nearest to its exact value, and so
does a whole number. What a decimal becomes therefore depends on its sign and value alone, not on
how its coefficient and exponent share the value between them.
-/

namespace Catalogue

/-- The double that a magnitude with a sign rounds to. The nearest rank is sought on the whole
ladder, and a rank past the finite doubles gives an infinity. -/
def RoundsTo (negative : Bool) (magnitude : ℚ) (double : Double) : Prop :=
  ∃ rank, IsNearestRank magnitude rank ∧ double = Double.ofRank negative rank

theorem RoundsTo.unique {negative : Bool} {magnitude : ℚ} {left right : Double}
    (leftRounds : RoundsTo negative magnitude left)
    (rightRounds : RoundsTo negative magnitude right) : left = right := by
  obtain ⟨leftRank, leftNearest, rfl⟩ := leftRounds
  obtain ⟨rightRank, rightNearest, rfl⟩ := rightRounds
  rw [leftNearest.unique rightNearest]

@[simp] theorem Double.ofRank_of_lt {negative : Bool} {rank : Nat} (below : rank < rankLimit) :
    Double.ofRank negative rank = .finite ⟨negative, rank, below⟩ :=
  dif_pos below

theorem Double.ofRank_of_le {negative : Bool} {rank : Nat} (past : rankLimit ≤ rank) :
    Double.ofRank negative rank = .infinite negative :=
  dif_neg (Nat.not_lt.mpr past)

/-! Magnitudes past every finite double -/

theorem magnitudeOfRank_rankLimit : magnitudeOfRank rankLimit = 2 ^ 1024 := by
  have rungs : rankLimit = 2046 * 2 ^ 52 + 2 ^ 52 := rfl
  have powers : (2 : ℚ) ^ 52 * 2 ^ 2046 = 2 ^ 1024 * 2 ^ 1074 := by rw [← pow_add, ← pow_add]
  rw [rungs, magnitudeOfRank_spacing (Or.inr le_rfl) (by norm_num), Nat.cast_pow, Nat.cast_ofNat,
    mul_div_assoc', powers, mul_div_cancel_right₀ _ (by positivity)]

theorem IsNearestRank.rankLimit_le {magnitude : ℚ} {rank : Nat}
    (nearest : IsNearestRank magnitude rank) (large : 2 ^ 1024 ≤ magnitude) :
    rankLimit ≤ rank := by
  by_contra below
  rw [← magnitudeOfRank_rankLimit] at large
  have order := magnitudeOfRank_strictMono (Nat.lt_of_not_le below)
  have closest := nearest.nearest rankLimit
  rw [abs_of_nonneg (by linarith), abs_of_nonneg (by linarith)] at closest
  linarith

theorem exists_isNearestRank {magnitude : ℚ} (nonneg : 0 ≤ magnitude) :
    ∃ rank, IsNearestRank magnitude rank := by
  have numerator : (magnitude.num.toNat : ℚ) = magnitude.num := by
    exact_mod_cast Int.toNat_of_nonneg (Rat.num_nonneg.mpr nonneg)
  refine ⟨nearestRank (magnitude.num.toNat * 2 ^ 1074) magnitude.den,
    isNearestRank_nearestRank magnitude.den_pos ?_⟩
  rw [Nat.cast_mul, numerator, Nat.cast_pow, Nat.cast_ofNat, mul_right_comm, Rat.mul_den_eq_num]

theorem roundsTo_infinite {negative : Bool} {magnitude : ℚ} (large : 2 ^ 1024 ≤ magnitude) :
    RoundsTo negative magnitude (.infinite negative) := by
  obtain ⟨rank, nearest⟩ := exists_isNearestRank (le_trans (by positivity) large)
  exact ⟨rank, nearest, (Double.ofRank_of_le (nearest.rankLimit_le large)).symm⟩

namespace Decimal

def value (decimal : Decimal) : ℚ := decimal.coefficient * 10 ^ decimal.exponent

theorem value_large {decimal : Decimal} (nonzero : decimal.coefficient ≠ 0)
    (large : 310 < decimal.exponent) : 2 ^ 1024 ≤ decimal.value := by
  have coefficient : (1 : ℚ) ≤ decimal.coefficient := by
    exact_mod_cast Nat.one_le_iff_ne_zero.mpr nonzero
  have power : (10 : ℚ) ^ (310 : ℤ) ≤ 10 ^ decimal.exponent :=
    zpow_le_zpow_right₀ (by norm_num) large.le
  have limit : (2 : ℚ) ^ 1024 ≤ 10 ^ (310 : ℤ) := by
    calc (2 : ℚ) ^ 1024 = (2 ^ 93) ^ 11 * 2 := by rw [← pow_mul, ← pow_succ]
      _ ≤ (10 ^ 28) ^ 11 * 100 := by gcongr <;> norm_num
      _ = 10 ^ (310 : ℤ) := by
        rw [← pow_mul, show (100 : ℚ) = 10 ^ 2 by norm_num, ← pow_add]
        exact (zpow_natCast 10 310).symm
  calc (2 : ℚ) ^ 1024 ≤ 10 ^ decimal.exponent := limit.trans power
    _ ≤ decimal.value := le_mul_of_one_le_left (by positivity) coefficient

theorem value_small {decimal : Decimal}
    (small : decimal.exponent + (decimal.coefficient.log2 + 1100 : Nat) < 0) :
    decimal.value ≤ 2 ^ (-1100 : ℤ) := by
  have coefficient : (decimal.coefficient : ℚ) ≤ 2 ^ (decimal.coefficient.log2 + 1 : ℤ) := by
    exact_mod_cast (Nat.lt_log2_self (n := decimal.coefficient)).le
  have power : (10 : ℚ) ^ decimal.exponent ≤ 2 ^ decimal.exponent := by
    obtain ⟨depth, negative⟩ : ∃ depth : Nat, decimal.exponent = -depth :=
      ⟨(-decimal.exponent).toNat, by omega⟩
    rw [negative, zpow_neg, zpow_neg, zpow_natCast, zpow_natCast]
    gcongr
    norm_num
  calc decimal.value
      ≤ 2 ^ (decimal.coefficient.log2 + 1 : ℤ) * 2 ^ decimal.exponent := by
        unfold value
        gcongr
    _ = 2 ^ (decimal.coefficient.log2 + 1 + decimal.exponent : ℤ) :=
        (zpow_add₀ two_ne_zero _ _).symm
    _ ≤ 2 ^ (-1100 : ℤ) := zpow_le_zpow_right₀ one_le_two (by omega)

theorem isNearestRank_zero {magnitude : ℚ} (nonneg : 0 ≤ magnitude)
    (small : magnitude ≤ 2 ^ (-1100 : ℤ)) : IsNearestRank magnitude 0 := by
  have first : magnitudeOfRank 1 = 2 ^ (-1074 : ℤ) := by
    simp [magnitudeOfRank, quantaOfRank_eq, zpow_neg]
  have half : (2 : ℚ) ^ (-1100 : ℤ) * 2 ≤ 2 ^ (-1074 : ℤ) := by
    rw [← zpow_add_one₀ two_ne_zero]
    exact zpow_le_zpow_right₀ one_le_two (by norm_num)
  apply isNearestRank_of_lower
  · simpa using nonneg
  · rw [magnitudeOfRank_zero, first]
    linarith
  · simp

theorem value_nonneg (decimal : Decimal) : 0 ≤ decimal.value := by
  unfold value
  positivity

theorem rank_isNearest_or_large (decimal : Decimal) :
    IsNearestRank decimal.value decimal.rank ∨
      2 ^ 1024 ≤ decimal.value ∧ decimal.rank = rankLimit := by
  unfold rank
  split_ifs with zero large small whole
  · left
    rw [value, zero, Nat.cast_zero, zero_mul, ← magnitudeOfRank_zero]
    exact isNearestRank_magnitudeOfRank 0
  · exact Or.inr ⟨value_large zero large, rfl⟩
  · exact Or.inl (isNearestRank_zero decimal.value_nonneg (value_small small))
  · left
    have power : (10 : ℚ) ^ decimal.exponent = 10 ^ decimal.exponent.toNat := by
      rw [← zpow_natCast, Int.toNat_of_nonneg whole]
    apply isNearestRank_nearestRank one_pos
    rw [value, power]
    simp only [Nat.pow_eq, Nat.cast_one, mul_one, Nat.cast_mul, Nat.cast_pow, Nat.cast_ofNat]
  · left
    have power : (10 : ℚ) ^ decimal.exponent * 10 ^ (-decimal.exponent).toNat = 1 := by
      rw [← zpow_natCast, Int.toNat_of_nonneg (by omega), zpow_neg, mul_inv_cancel₀ (by positivity)]
    apply isNearestRank_nearestRank (Nat.pow_pos (by decide))
    simp only [value, Nat.pow_eq, Nat.cast_mul, Nat.cast_pow, Nat.cast_ofNat]
    rw [mul_right_comm, mul_assoc (decimal.coefficient : ℚ), power,
      mul_one (decimal.coefficient : ℚ)]

theorem roundsTo_ofRank (negative : Bool) (decimal : Decimal) :
    RoundsTo negative decimal.value (Double.ofRank negative decimal.rank) := by
  rcases decimal.rank_isNearest_or_large with nearest | ⟨large, past⟩
  · exact ⟨decimal.rank, nearest, rfl⟩
  · rw [past, Double.ofRank_of_le le_rfl]
    exact roundsTo_infinite large

theorem rank_eq {decimal : Decimal} {rank : Nat} (below : rank < rankLimit)
    (nearest : IsNearestRank decimal.value rank) : decimal.rank = rank := by
  rcases decimal.rank_isNearest_or_large with found | ⟨large, _⟩
  · exact found.unique nearest
  · exact absurd (nearest.rankLimit_le large) (Nat.not_le.mpr below)

theorem rank_isNearest {decimal : Decimal} (below : decimal.rank < rankLimit) :
    IsNearestRank decimal.value decimal.rank := by
  rcases decimal.rank_isNearest_or_large with nearest | ⟨_, past⟩
  · exact nearest
  · exact absurd past below.ne

theorem rank_eq_iff {decimal : Decimal} {rank : Nat} (below : rank < rankLimit) :
    decimal.rank = rank ↔ IsNearestRank decimal.value rank := by
  constructor
  · rintro rfl
    exact rank_isNearest below
  · exact rank_eq below

theorem coefficient_ne_zero {decimal : Decimal} (nonzero : decimal.rank ≠ 0) :
    decimal.coefficient ≠ 0 := by
  intro zero
  exact nonzero (by simp [rank, zero])

end Decimal

theorem SignedDecimal.roundsTo_toDouble (decimal : SignedDecimal) :
    RoundsTo decimal.negative decimal.magnitude.value decimal.toDouble :=
  decimal.magnitude.roundsTo_ofRank decimal.negative

theorem Double.roundsTo_ofInt (number : Int) :
    RoundsTo (number < 0) number.natAbs (Double.ofInt number) := by
  refine ⟨_, isNearestRank_nearestRank one_pos ?_, rfl⟩
  simp only [Nat.pow_eq, Nat.cast_one, mul_one, Nat.cast_mul, Nat.cast_pow, Nat.cast_ofNat]

end Catalogue

import Mathlib
import Catalogue.Proofs.Number.Decimal

/-!
Rounding over the range of doubles. It keeps the order of magnitudes, and a magnitude has a finite
double up to the middle between the greatest one and the power of two after it, where the tie goes
to that power.
-/

namespace Catalogue

theorem magnitudeOfRank_nonneg (rank : Nat) : 0 ≤ magnitudeOfRank rank := by
  rw [magnitudeOfRank]
  positivity

def signed (negative : Bool) (magnitude : ℚ) : ℚ := if negative then -magnitude else magnitude

@[simp] theorem abs_signed_sub_signed (negative : Bool) (left right : ℚ) :
    |signed negative left - signed negative right| = |left - right| := by
  cases negative with
  | false => rfl
  | true =>
      rw [signed, signed, if_pos rfl, if_pos rfl, neg_sub_neg]
      exact abs_sub_comm right left

theorem abs_signed_sub_of_ne {leftNegative rightNegative : Bool}
    (apart : leftNegative ≠ rightNegative) (left right : ℚ) :
    |signed leftNegative left - signed rightNegative right| = |left + right| := by
  cases leftNegative <;> cases rightNegative
  · exact absurd rfl apart
  · simp [signed]
  · simp only [signed, if_true, Bool.false_eq_true, if_false]
    rw [← abs_neg, neg_sub, sub_neg_eq_add, add_comm]
  · exact absurd rfl apart

@[simp] theorem signed_zero (negative : Bool) : signed negative 0 = 0 := by
  cases negative <;> simp [signed]

theorem signed_injective (negative : Bool) : Function.Injective (signed negative) := by
  intro left right same
  cases negative with
  | false => exact same
  | true => exact neg_injective same

theorem abs_sub_le_abs_signed_sub {left right : ℚ} (leftNonneg : 0 ≤ left)
    (rightNonneg : 0 ≤ right) (leftNegative rightNegative : Bool) :
    |left - right| ≤ |signed leftNegative left - signed rightNegative right| := by
  by_cases same : leftNegative = rightNegative
  · rw [same, abs_signed_sub_signed]
  · rw [abs_signed_sub_of_ne same, abs_of_nonneg (add_nonneg leftNonneg rightNonneg)]
    exact abs_sub_le_iff.mpr ⟨by linarith, by linarith⟩

/-- The first magnitude that rounds past the finite doubles. -/
def overflowThreshold : ℚ := 2 ^ 1024 - 2 ^ 970

theorem magnitudeOfRank_last : magnitudeOfRank (rankLimit - 1) = 2 ^ 1024 - 2 ^ 971 := by
  have rungs : rankLimit - 1 = 2045 * 2 ^ 52 + (2 ^ 53 - 1) := rfl
  have step : (2 : ℚ) ^ 2045 / 2 ^ 1074 = 2 ^ 971 := by
    rw [div_eq_iff (by positivity), ← pow_add]
  have power : (2 : ℚ) ^ 1024 = 2 ^ 53 * 2 ^ 971 := by rw [← pow_add]
  rw [rungs, magnitudeOfRank_spacing (Or.inr (by norm_num)) (by norm_num), step, power]
  generalize (2 : ℚ) ^ 971 = unit
  push_cast
  ring

theorem overflowThreshold_middle :
    magnitudeOfRank (rankLimit - 1) + magnitudeOfRank rankLimit = 2 * overflowThreshold := by
  have half : (2 : ℚ) ^ 971 = 2 * 2 ^ 970 := by rw [← pow_succ']
  rw [magnitudeOfRank_rankLimit, magnitudeOfRank_last, half, overflowThreshold]
  generalize (2 : ℚ) ^ 1024 = limit
  generalize (2 : ℚ) ^ 970 = unit
  ring

section

variable {lower upper magnitude : ℚ}

theorem upper_nearer_iff (apart : lower < upper) :
    |magnitude - upper| ≤ |magnitude - lower| ↔ lower + upper ≤ 2 * magnitude := by
  rw [← sq_le_sq]
  constructor
  · intro nearer
    by_contra before
    nlinarith
  · intro past
    nlinarith

theorem lower_nearer_iff (apart : lower < upper) :
    |magnitude - lower| ≤ |magnitude - upper| ↔ 2 * magnitude ≤ lower + upper := by
  rw [← sq_le_sq]
  constructor
  · intro nearer
    by_contra past
    nlinarith
  · intro before
    nlinarith

theorem last_nearer {rank : Nat} (below : magnitude < overflowThreshold)
    (past : rankLimit ≤ rank) :
    |magnitude - magnitudeOfRank (rankLimit - 1)| < |magnitude - magnitudeOfRank rank| := by
  have apart : magnitudeOfRank (rankLimit - 1) < magnitudeOfRank rankLimit :=
    magnitudeOfRank_strictMono (by decide)
  have beyond := magnitudeOfRank_strictMono.monotone past
  have middle := overflowThreshold_middle
  rw [← not_le, upper_nearer_iff (apart.trans_le beyond)]
  linarith

end

namespace IsNearestRank

variable {magnitude other : ℚ} {rank otherRank : Nat}

theorem lt_rankLimit (nearest : IsNearestRank magnitude rank)
    (below : magnitude < overflowThreshold) : rank < rankLimit := by
  by_contra past
  have nearer := last_nearer below (Nat.le_of_not_lt past)
  exact absurd (nearest.nearest (rankLimit - 1)) (not_le.mpr nearer)

/-- At the threshold the rung past the finite doubles is as near as the last rung before it, which
is odd. -/
theorem lt_overflowThreshold (nearest : IsNearestRank magnitude rank)
    (below : rank < rankLimit) : magnitude < overflowThreshold := by
  by_contra large
  have apart := magnitudeOfRank_strictMono below
  have bound := magnitudeOfRank_strictMono.monotone (Nat.le_sub_one_of_lt below)
  have nearer := (lower_nearer_iff apart).mp (nearest.nearest rankLimit)
  have middle := overflowThreshold_middle
  have last : magnitudeOfRank rank = magnitudeOfRank (rankLimit - 1) := by linarith
  have past : magnitudeOfRank rank + magnitudeOfRank rankLimit ≤ 2 * magnitude := by linarith
  have tie := le_antisymm (nearest.nearest rankLimit) ((upper_nearer_iff apart).mpr past)
  have even := nearest.even_of_tie rankLimit below.ne' tie
  rw [magnitudeOfRank_strictMono.injective last] at even
  exact absurd even (by decide)

/-- Of two magnitudes the smaller does not round to the greater rank: both would lie in the middle
between the ranks, and so be one. -/
theorem le_of_le (nearest : IsNearestRank magnitude rank)
    (otherNearest : IsNearestRank other otherRank) (order : magnitude ≤ other) :
    rank ≤ otherRank := by
  by_contra greater
  have apart := magnitudeOfRank_strictMono (Nat.lt_of_not_le greater)
  have above := (upper_nearer_iff apart).mp (nearest.nearest otherRank)
  have below := (lower_nearer_iff apart).mp (otherNearest.nearest rank)
  have same : magnitude = other := by linarith
  rw [same] at nearest
  exact greater (nearest.unique otherNearest).le

theorem between {low magnitude high : ℚ} {rank : Nat} (lowNonneg : 0 ≤ low)
    (lowNearest : IsNearestRank low rank) (highNearest : IsNearestRank high rank)
    (above : low ≤ magnitude) (below : magnitude ≤ high) : IsNearestRank magnitude rank := by
  obtain ⟨found, nearest⟩ := exists_isNearestRank (lowNonneg.trans above)
  have same : found = rank :=
    Nat.le_antisymm (nearest.le_of_le highNearest below) (lowNearest.le_of_le nearest above)
  rwa [same] at nearest

theorem eq_zero (nearest : IsNearestRank 0 rank) : rank = 0 := by
  have zero := isNearestRank_magnitudeOfRank 0
  rw [magnitudeOfRank_zero] at zero
  exact nearest.unique zero

end IsNearestRank

/-! Finite doubles and the numbers that round to them -/

theorem Double.finite?_eq_some {double : Double} {value : FiniteDouble} :
    double.finite? = some value ↔ double = .finite value := by
  cases double <;> simp [finite?]

theorem RoundsTo.finite_iff {negative : Bool} {magnitude : ℚ} {double : FiniteDouble} :
    RoundsTo negative magnitude (.finite double) ↔
      double.negative = negative ∧ IsNearestRank magnitude double.rank := by
  constructor
  · rintro ⟨rank, nearest, same⟩
    by_cases below : rank < rankLimit
    · rw [Double.ofRank_of_lt below] at same
      obtain rfl := Double.finite.inj same
      exact ⟨rfl, nearest⟩
    · rw [Double.ofRank_of_le (Nat.le_of_not_lt below)] at same
      exact absurd same nofun
  · rintro ⟨rfl, nearest⟩
    exact ⟨double.rank, nearest, (Double.ofRank_of_lt double.rank_lt).symm⟩

theorem RoundsTo.isSome_finite? {negative : Bool} {magnitude : ℚ} {double : Double}
    (rounds : RoundsTo negative magnitude double) :
    double.finite?.isSome = true ↔ magnitude < overflowThreshold := by
  obtain ⟨rank, nearest, rfl⟩ := rounds
  by_cases below : rank < rankLimit
  · rw [Double.ofRank_of_lt below]
    exact iff_of_true rfl (nearest.lt_overflowThreshold below)
  · rw [Double.ofRank_of_le (Nat.le_of_not_lt below)]
    exact iff_of_false nofun fun small => below (nearest.lt_rankLimit small)

namespace FiniteDouble

def value (double : FiniteDouble) : ℚ := signed double.negative (magnitudeOfRank double.rank)

theorem value_eq_quanta (double : FiniteDouble) : double.value = double.quanta / 2 ^ 1074 := by
  unfold value quanta magnitudeOfRank signed
  split_ifs
  · rw [Int.cast_neg, Int.cast_natCast, neg_div]
  · rw [Int.cast_natCast]

variable {left right : FiniteDouble}

theorem atMost_iff : left.atMost right = true ↔ left.value ≤ right.value := by
  rw [atMost, decide_eq_true_eq, value_eq_quanta, value_eq_quanta,
    div_le_div_iff_of_pos_right (by positivity), Int.cast_le]

def IsRoundingOf (double : FiniteDouble) (number : ℚ) : Prop :=
  ∃ magnitude, 0 ≤ magnitude ∧ IsNearestRank magnitude double.rank ∧
    number = signed double.negative magnitude

theorem isRoundingOf_value (double : FiniteDouble) : double.IsRoundingOf double.value :=
  ⟨_, magnitudeOfRank_nonneg _, isNearestRank_magnitudeOfRank _, rfl⟩

theorem IsRoundingOf.value_le {number other : ℚ} (rounding : left.IsRoundingOf number)
    (otherRounding : right.IsRoundingOf other) (order : number ≤ other) :
    left.value ≤ right.value := by
  obtain ⟨magnitude, nonneg, nearest, rfl⟩ := rounding
  obtain ⟨otherMagnitude, otherNonneg, otherNearest, rfl⟩ := otherRounding
  unfold value
  cases leftSign : left.negative with
  | false =>
      cases rightSign : right.negative with
      | false =>
          rw [leftSign, rightSign] at order
          exact magnitudeOfRank_strictMono.monotone (nearest.le_of_le otherNearest order)
      | true =>
          -- Only zeros are in this order.
          rw [leftSign, rightSign] at order
          simp only [signed, Bool.false_eq_true, if_false, if_true] at order
          obtain rfl : magnitude = 0 := by linarith
          obtain rfl : otherMagnitude = 0 := by linarith
          rw [nearest.eq_zero, otherNearest.eq_zero, magnitudeOfRank_zero, signed_zero,
            signed_zero]
  | true =>
      cases rightSign : right.negative with
      | false =>
          have leftNonneg := magnitudeOfRank_nonneg left.rank
          have rightNonneg := magnitudeOfRank_nonneg right.rank
          simp only [signed, Bool.false_eq_true, if_false, if_true]
          linarith
      | true =>
          rw [leftSign, rightSign] at order
          have reversed := otherNearest.le_of_le nearest (neg_le_neg_iff.mp order)
          exact neg_le_neg (magnitudeOfRank_strictMono.monotone reversed)

theorem IsRoundingOf.value_eq (rounding : left.IsRoundingOf right.value) :
    left.value = right.value :=
  le_antisymm (rounding.value_le right.isRoundingOf_value le_rfl)
    (right.isRoundingOf_value.value_le rounding le_rfl)

end FiniteDouble

end Catalogue

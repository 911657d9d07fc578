import Mathlib
import Catalogue.Proofs.Number.Range

/-!
The bit patterns of double precision and their exact values. A rank is the exponent and the
fraction of a pattern read as one number, so that the finite doubles are the patterns of which the
exponent is not all ones, and rounding to the nearest rank finds the pattern nearest to a value.
-/

namespace Catalogue

theorem rankLimit_eq : rankLimit = 2047 * 2 ^ 52 := rfl

namespace DoubleBits

variable (bits : BitVec 64)

def negative : Bool := bits.msb

def exponent : Nat := bits.toNat / 2 ^ 52 % 2 ^ 11

def fraction : Nat := bits.toNat % 2 ^ 52

/-- The exponent of all ones is left to infinities and to what is not a number. -/
def IsFinite : Prop := exponent bits ≠ 2 ^ 11 - 1

/-- The magnitudes of the least exponent have no leading one, and the spacing of the next. -/
def magnitude : ℚ :=
  if exponent bits = 0 then fraction bits / 2 ^ 52 * 2 ^ (-1022 : ℤ)
  else (1 + fraction bits / 2 ^ 52) * 2 ^ (exponent bits - 1023 : ℤ)

def value : ℚ := signed (negative bits) (magnitude bits)

/-- No finite pattern is nearer to a number, and none of another value is as near unless the
fraction is even. -/
structure IsNearest (number : ℚ) (bits : BitVec 64) : Prop where
  finite : IsFinite bits
  nearest : ∀ other, IsFinite other → |number - value bits| ≤ |number - value other|
  even_of_tie : ∀ other, IsFinite other → value other ≠ value bits →
    |number - value bits| = |number - value other| → fraction bits % 2 = 0

def rank : Nat := bits.toNat % 2 ^ 63

theorem rank_eq : rank bits = exponent bits * 2 ^ 52 + fraction bits := by
  unfold rank exponent fraction
  omega

theorem isFinite_iff : IsFinite bits ↔ rank bits < rankLimit := by
  rw [IsFinite, rankLimit_eq, rank, exponent]
  omega

theorem fraction_mod_two : fraction bits % 2 = rank bits % 2 := by
  unfold fraction rank
  omega

theorem magnitude_eq : magnitude bits = magnitudeOfRank (rank bits) := by
  have small : fraction bits < 2 ^ 52 := Nat.mod_lt _ (by positivity)
  have unit (power : Nat) :
      (2 : ℚ) ^ (power - 1022 : ℤ) = 2 ^ 52 * (2 ^ power / 2 ^ 1074) := by
    have whole : (power - 1022 : ℤ) = (52 : Nat) + ((power : Nat) - (1074 : Nat)) := by omega
    rw [whole, zpow_add₀ two_ne_zero, zpow_sub₀ two_ne_zero]
    simp only [zpow_natCast]
  rw [rank_eq, magnitude]
  split_ifs with least
  · rw [least, magnitudeOfRank_spacing (Or.inl rfl) (by omega)]
    have scaled := unit 0
    norm_num at scaled ⊢
    rw [scaled]
    generalize (2 : ℚ) ^ 1074 = quantum
    ring
  · obtain ⟨spacing, next⟩ := Nat.exists_eq_succ_of_ne_zero least
    have rungs : (spacing + 1) * 2 ^ 52 + fraction bits =
        spacing * 2 ^ 52 + (2 ^ 52 + fraction bits) := by omega
    have power : ((spacing + 1 : Nat) - 1023 : ℤ) = spacing - 1022 := by omega
    rw [next, Nat.succ_eq_add_one, rungs, magnitudeOfRank_spacing (Or.inr (by omega)) (by omega),
      power, unit, Nat.cast_add, Nat.cast_pow, Nat.cast_ofNat]
    generalize (2 ^ spacing / 2 ^ 1074 : ℚ) = step
    field_simp

end DoubleBits

namespace FiniteDouble

open DoubleBits

variable (double : FiniteDouble)

theorem rank_lt_two_pow : double.rank < 2 ^ 63 := by
  have below := double.rank_lt
  rw [rankLimit_eq] at below
  omega

theorem toNat_bits :
    double.bits.toNat = (if double.negative then 2 ^ 63 else 0) + double.rank := by
  have below := double.rank_lt_two_pow
  rw [bits, BitVec.toNat_ofNat, Nat.pow_eq, Nat.mod_eq_of_lt]
  split_ifs <;> omega

@[simp] theorem rank_bits : DoubleBits.rank double.bits = double.rank := by
  have below := double.rank_lt_two_pow
  rw [DoubleBits.rank, toNat_bits]
  split_ifs <;> omega

@[simp] theorem negative_bits : DoubleBits.negative double.bits = double.negative := by
  have below := double.rank_lt_two_pow
  rw [DoubleBits.negative, BitVec.msb_eq_decide, toNat_bits]
  cases double.negative with
  | false => simpa using below
  | true => simp

theorem isFinite_bits : IsFinite double.bits := by
  rw [isFinite_iff, rank_bits]
  exact double.rank_lt

@[simp] theorem value_bits : DoubleBits.value double.bits = double.value := by
  rw [DoubleBits.value, negative_bits, magnitude_eq, rank_bits, FiniteDouble.value]

theorem exists_bits {pattern : BitVec 64} (finite : IsFinite pattern) :
    ∃ double : FiniteDouble, double.bits = pattern := by
  refine ⟨⟨DoubleBits.negative pattern, DoubleBits.rank pattern, (isFinite_iff _).mp finite⟩, ?_⟩
  have sign : DoubleBits.negative pattern = true ↔ 2 ^ 63 ≤ pattern.toNat := by
    rw [DoubleBits.negative, BitVec.msb_eq_decide, decide_eq_true_eq]
  have bound := pattern.isLt
  apply BitVec.eq_of_toNat_eq
  rw [toNat_bits]
  dsimp only [DoubleBits.rank]
  split_ifs with above
  · have high := sign.mp above
    omega
  · have low := mt sign.mpr above
    omega

/-! Nearest patterns and nearest ranks -/

variable {double} {magnitude : ℚ}

theorem abs_signed_sub_value :
    |signed double.negative magnitude - double.value| =
      |magnitude - magnitudeOfRank double.rank| :=
  abs_signed_sub_signed _ _ _

/-- Under the other sign the rung is as near as the nearest one only where both are zero. -/
theorem value_eq_of_tie {other : FiniteDouble} (nearest : IsNearestRank magnitude double.rank)
    (same : other.rank = double.rank)
    (tie : |magnitude - magnitudeOfRank double.rank| =
      |signed double.negative magnitude - other.value|) : other.value = double.value := by
  by_cases signs : double.negative = other.negative
  · rw [value, value, signs, same]
  · rw [value, same, abs_signed_sub_of_ne signs] at tie
    have zero : magnitudeOfRank double.rank = 0 := by
      rcases abs_eq_abs.mp tie with sum | sum
      · linarith
      · obtain rfl : magnitude = 0 := by linarith
        rw [nearest.eq_zero, magnitudeOfRank_zero]
    rw [value, value, same, zero, signed_zero, signed_zero]

theorem isNearest_bits (nonneg : 0 ≤ magnitude) (nearest : IsNearestRank magnitude double.rank) :
    IsNearest (signed double.negative magnitude) double.bits := by
  have acrossSigns (other : FiniteDouble) : |magnitude - magnitudeOfRank other.rank| ≤
      |signed double.negative magnitude - other.value| :=
    abs_sub_le_abs_signed_sub nonneg (magnitudeOfRank_nonneg _) _ _
  constructor
  · exact isFinite_bits double
  · intro other finite
    obtain ⟨other, rfl⟩ := exists_bits finite
    rw [value_bits, value_bits, abs_signed_sub_value]
    exact (nearest.nearest other.rank).trans (acrossSigns other)
  · intro other finite different tie
    obtain ⟨other, rfl⟩ := exists_bits finite
    rw [value_bits, value_bits] at different
    rw [value_bits, value_bits, abs_signed_sub_value] at tie
    rw [fraction_mod_two, rank_bits]
    have apart : other.rank ≠ double.rank :=
      fun same => different (value_eq_of_tie nearest same tie)
    have nearer := nearest.nearest other.rank
    exact nearest.even_of_tie other.rank apart (le_antisymm nearer (tie ▸ acrossSigns other))

theorem isNearestRank_of_bits (below : magnitude < overflowThreshold)
    (nearest : IsNearest (signed double.negative magnitude) double.bits) :
    IsNearestRank magnitude double.rank := by
  have distance (rank : Nat) (finite : rank < rankLimit) :
      |magnitude - magnitudeOfRank rank| = |signed double.negative magnitude -
        DoubleBits.value (bits ⟨double.negative, rank, finite⟩)| := by
    rw [value_bits]
    exact (abs_signed_sub_signed _ _ _).symm
  have closest (rank : Nat) (finite : rank < rankLimit) :
      |magnitude - magnitudeOfRank double.rank| ≤ |magnitude - magnitudeOfRank rank| := by
    rw [distance rank finite, distance double.rank double.rank_lt]
    exact nearest.nearest _ (isFinite_bits _)
  have past (rank : Nat) (infinite : rankLimit ≤ rank) :
      |magnitude - magnitudeOfRank double.rank| < |magnitude - magnitudeOfRank rank| :=
    (closest (rankLimit - 1) (by decide)).trans_lt (last_nearer below infinite)
  constructor
  · intro rank
    by_cases finite : rank < rankLimit
    · exact closest rank finite
    · exact (past rank (Nat.le_of_not_lt finite)).le
  · intro rank different tie
    by_cases finite : rank < rankLimit
    · rw [distance rank finite, distance double.rank double.rank_lt] at tie
      have apart := magnitudeOfRank_strictMono.injective.ne different
      have even := nearest.even_of_tie _ (isFinite_bits _) ?_ tie
      · rwa [fraction_mod_two, rank_bits] at even
      · rw [value_bits, value_bits]
        exact (signed_injective _).ne apart
    · exact absurd tie (past rank (Nat.le_of_not_lt finite)).ne

end FiniteDouble

theorem RoundsTo.bits_iff {negative : Bool} {magnitude : ℚ} {double : Double}
    {pattern : BitVec 64} (nonneg : 0 ≤ magnitude) (rounds : RoundsTo negative magnitude double) :
    double.finite?.map FiniteDouble.bits = some pattern ↔
      magnitude < overflowThreshold ∧ DoubleBits.negative pattern = negative ∧
        DoubleBits.IsNearest (signed negative magnitude) pattern := by
  constructor
  · intro found
    obtain ⟨value, finite, rfl⟩ := Option.map_eq_some_iff.mp found
    obtain rfl := Double.finite?_eq_some.mp finite
    obtain ⟨rfl, nearest⟩ := RoundsTo.finite_iff.mp rounds
    exact ⟨nearest.lt_overflowThreshold value.rank_lt, value.negative_bits,
      FiniteDouble.isNearest_bits nonneg nearest⟩
  · rintro ⟨small, rfl, nearest⟩
    obtain ⟨value, rfl⟩ := FiniteDouble.exists_bits nearest.finite
    rw [FiniteDouble.negative_bits] at rounds nearest
    have found := FiniteDouble.isNearestRank_of_bits small nearest
    rw [rounds.unique (RoundsTo.finite_iff.mpr ⟨rfl, found⟩)]
    rfl

end Catalogue

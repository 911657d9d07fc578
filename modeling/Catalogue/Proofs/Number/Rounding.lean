import Mathlib
import Catalogue.Number.Double

/-!
Rounding to the nearest double. The magnitudes of the ranks form a strictly increasing ladder, on
which the ranks from `rankLimit` on continue past the finite doubles. `nearestRank` finds the rung
nearest to a quotient, the even one of two that are equally near, and there is no other such rung.
-/

namespace Catalogue

def magnitudeOfRank (rank : Nat) : ℚ := quantaOfRank rank / 2 ^ 1074

/-- A rank is nearest to a magnitude when no rung of the ladder is nearer, and none but an even
rank is nearest where another rung is equally near. -/
structure IsNearestRank (magnitude : ℚ) (rank : Nat) : Prop where
  nearest : ∀ other,
    |magnitude - magnitudeOfRank rank| ≤ |magnitude - magnitudeOfRank other|
  even_of_tie : ∀ other, other ≠ rank →
    |magnitude - magnitudeOfRank rank| = |magnitude - magnitudeOfRank other| → rank % 2 = 0

theorem quantaOfRank_eq (rank : Nat) :
    quantaOfRank rank =
      if rank < 2 ^ 53 then rank else (2 ^ 52 + rank % 2 ^ 52) * 2 ^ (rank / 2 ^ 52 - 1) :=
  rfl

/-- Within one spacing ranks count the multiples of a power of two. The first rank of the next
spacing still fits, so that a significand may be rounded up to 2^53. -/
theorem quantaOfRank_spacing {spacing significand : Nat}
    (normal : spacing = 0 ∨ 2 ^ 52 ≤ significand) (bound : significand ≤ 2 ^ 53) :
    quantaOfRank (spacing * 2 ^ 52 + significand) = significand * 2 ^ spacing := by
  rw [quantaOfRank_eq]
  rcases Nat.lt_or_ge significand (2 ^ 53) with below | top
  · by_cases zero : spacing = 0
    · subst zero
      rw [Nat.zero_mul, Nat.zero_add, if_pos below, Nat.pow_zero, Nat.mul_one]
    · have large : 2 ^ 52 ≤ significand := normal.resolve_left zero
      have remainder : (spacing * 2 ^ 52 + significand) % 2 ^ 52 = significand - 2 ^ 52 := by omega
      have quotient : (spacing * 2 ^ 52 + significand) / 2 ^ 52 = spacing + 1 := by omega
      rw [if_neg (by omega), remainder, quotient, Nat.add_sub_cancel,
        Nat.add_sub_cancel' large]
  · have equal : significand = 2 ^ 53 := by omega
    have remainder : (spacing * 2 ^ 52 + 2 ^ 53) % 2 ^ 52 = 0 := by omega
    have quotient : (spacing * 2 ^ 52 + 2 ^ 53) / 2 ^ 52 = spacing + 2 := by omega
    rw [equal, if_neg (by omega), remainder, quotient]
    simp only [Nat.add_zero, Nat.reduceSubDiff]
    rw [Nat.pow_succ, Nat.pow_succ 2 52]
    ring

theorem magnitudeOfRank_spacing {spacing significand : Nat}
    (normal : spacing = 0 ∨ 2 ^ 52 ≤ significand) (bound : significand ≤ 2 ^ 53) :
    magnitudeOfRank (spacing * 2 ^ 52 + significand) =
      significand * (2 ^ spacing / 2 ^ 1074) := by
  rw [magnitudeOfRank, quantaOfRank_spacing normal bound, Nat.cast_mul, Nat.cast_pow,
    Nat.cast_ofNat, mul_div_assoc]

theorem exists_spacing (rank : Nat) : ∃ spacing significand,
    rank = spacing * 2 ^ 52 + significand ∧ (spacing = 0 ∨ 2 ^ 52 ≤ significand) ∧
      significand < 2 ^ 53 := by
  rcases Nat.lt_or_ge rank (2 ^ 53) with below | above
  · exact ⟨0, rank, by omega, Or.inl rfl, below⟩
  · exact ⟨rank / 2 ^ 52 - 1, 2 ^ 52 + rank % 2 ^ 52, by omega, Or.inr (by omega), by omega⟩

theorem quantaOfRank_strictMono : StrictMono quantaOfRank := by
  apply strictMono_nat_of_lt_succ
  intro rank
  obtain ⟨spacing, significand, rfl, normal, bound⟩ := exists_spacing rank
  rw [Nat.add_assoc, quantaOfRank_spacing normal (by omega),
    quantaOfRank_spacing (normal.imp_right (by omega)) (by omega)]
  exact Nat.mul_lt_mul_of_pos_right (Nat.lt_succ_self _) (by positivity)

@[simp] theorem quantaOfRank_zero : quantaOfRank 0 = 0 := by
  simp [quantaOfRank_eq]

theorem magnitudeOfRank_strictMono : StrictMono magnitudeOfRank := by
  intro left right below
  unfold magnitudeOfRank
  have quanta : (quantaOfRank left : ℚ) < quantaOfRank right := by
    exact_mod_cast quantaOfRank_strictMono below
  exact div_lt_div_of_pos_right quanta (by positivity)

@[simp] theorem magnitudeOfRank_zero : magnitudeOfRank 0 = 0 := by
  simp [magnitudeOfRank]

theorem magnitudeOfRank_succ_le (rank : Nat) : magnitudeOfRank (rank + 1) ≤
    2 ^ 53 * (magnitudeOfRank (rank + 1) - magnitudeOfRank rank) := by
  obtain ⟨spacing, significand, rfl, normal, bound⟩ := exists_spacing rank
  rw [Nat.add_assoc, magnitudeOfRank_spacing normal bound.le,
    magnitudeOfRank_spacing (normal.imp_right Nat.le_succ_of_le) bound, ← sub_mul,
    Nat.cast_succ, add_sub_cancel_left, one_mul]
  have few : ((significand : ℚ) + 1) ≤ 2 ^ 53 := by exact_mod_cast bound
  exact mul_le_mul_of_nonneg_right few (by positivity)

theorem magnitudeOfRank_apart {rank other : Nat} (different : other ≠ rank) :
    magnitudeOfRank rank ≤ 2 ^ 53 * |magnitudeOfRank rank - magnitudeOfRank other| := by
  rcases Nat.lt_or_gt_of_ne different with smaller | greater
  · obtain ⟨previous, rfl⟩ := Nat.exists_eq_succ_of_ne_zero (Nat.ne_zero_of_lt smaller)
    have order := magnitudeOfRank_strictMono.monotone (Nat.le_of_lt_succ smaller)
    have apart := magnitudeOfRank_succ_le previous
    have distance := le_abs_self (magnitudeOfRank (previous + 1) - magnitudeOfRank other)
    rw [Nat.succ_eq_add_one]
    linarith
  · have order := magnitudeOfRank_strictMono.monotone (Nat.succ_le_of_lt greater)
    have next := magnitudeOfRank_strictMono (Nat.lt_succ_self rank)
    have apart := magnitudeOfRank_succ_le rank
    have distance := neg_le_abs (magnitudeOfRank rank - magnitudeOfRank other)
    rw [Nat.succ_eq_add_one] at order next
    linarith

theorem isNearestRank_magnitudeOfRank (rank : Nat) :
    IsNearestRank (magnitudeOfRank rank) rank := by
  constructor
  · intro other
    rw [sub_self, abs_zero]
    exact abs_nonneg _
  · intro other different tie
    rw [sub_self, abs_zero, eq_comm, abs_eq_zero, sub_eq_zero] at tie
    exact absurd (magnitudeOfRank_strictMono.injective tie).symm different

/-- Two nearest ranks would be neighbours with the magnitude in their middle, and only one of two
neighbours is even. -/
theorem IsNearestRank.not_lt {magnitude : ℚ} {left right : Nat}
    (leftNearest : IsNearestRank magnitude left) (rightNearest : IsNearestRank magnitude right) :
    ¬ left < right := by
  intro below
  have tie : |magnitude - magnitudeOfRank left| = |magnitude - magnitudeOfRank right| :=
    le_antisymm (leftNearest.nearest right) (rightNearest.nearest left)
  have leftEven := leftNearest.even_of_tie right (by omega) tie
  have rightEven := rightNearest.even_of_tie left (by omega) tie.symm
  have middle : magnitude - magnitudeOfRank left = magnitudeOfRank right - magnitude := by
    have order := magnitudeOfRank_strictMono below
    rcases abs_eq_abs.mp tie with same | opposite
    · linarith
    · linarith
  have between : left < left + 1 ∧ left + 1 < right := by omega
  have lower := magnitudeOfRank_strictMono between.1
  have upper := magnitudeOfRank_strictMono between.2
  have nearer : |magnitude - magnitudeOfRank (left + 1)| < |magnitude - magnitudeOfRank left| := by
    rw [abs_lt, abs_of_nonneg (by linarith)]
    constructor <;> linarith
  exact absurd (leftNearest.nearest (left + 1)) (not_le.mpr nearer)

theorem IsNearestRank.unique {magnitude : ℚ} {left right : Nat}
    (leftNearest : IsNearestRank magnitude left) (rightNearest : IsNearestRank magnitude right) :
    left = right :=
  Nat.le_antisymm (Nat.le_of_not_lt (rightNearest.not_lt leftNearest))
    (Nat.le_of_not_lt (leftNearest.not_lt rightNearest))

theorem isNearestRank_of_lower {magnitude : ℚ} {rank : Nat}
    (lower : magnitudeOfRank rank ≤ magnitude)
    (near : magnitude - magnitudeOfRank rank ≤ magnitudeOfRank (rank + 1) - magnitude)
    (even : magnitude - magnitudeOfRank rank = magnitudeOfRank (rank + 1) - magnitude →
      rank % 2 = 0) : IsNearestRank magnitude rank := by
  have distance : |magnitude - magnitudeOfRank rank| = magnitude - magnitudeOfRank rank :=
    abs_of_nonneg (by linarith)
  have above : ∀ other, rank < other →
      magnitudeOfRank (rank + 1) - magnitude ≤ |magnitude - magnitudeOfRank other| := by
    intro other greater
    have order := magnitudeOfRank_strictMono.monotone (Nat.succ_le_of_lt greater)
    rw [abs_sub_comm]
    exact le_trans (by simpa using order) (le_abs_self _)
  have below : ∀ other, other < rank →
      magnitude - magnitudeOfRank rank < |magnitude - magnitudeOfRank other| := by
    intro other smaller
    have order := magnitudeOfRank_strictMono smaller
    exact lt_of_lt_of_le (by linarith) (le_abs_self _)
  constructor
  · intro other
    rw [distance]
    rcases Nat.lt_trichotomy other rank with smaller | same | greater
    · exact (below other smaller).le
    · rw [same, distance]
    · exact near.trans (above other greater)
  · intro other different tie
    rw [distance] at tie
    rcases Nat.lt_or_gt_of_ne different with smaller | greater
    · exact absurd tie (below other smaller).ne
    · exact even (le_antisymm near (tie ▸ above other greater))

theorem isNearestRank_of_upper {magnitude : ℚ} {rank : Nat}
    (upper : magnitude ≤ magnitudeOfRank (rank + 1))
    (near : magnitudeOfRank (rank + 1) - magnitude ≤ magnitude - magnitudeOfRank rank)
    (even : magnitudeOfRank (rank + 1) - magnitude = magnitude - magnitudeOfRank rank →
      (rank + 1) % 2 = 0) : IsNearestRank magnitude (rank + 1) := by
  have distance : |magnitude - magnitudeOfRank (rank + 1)| =
      magnitudeOfRank (rank + 1) - magnitude := by
    rw [abs_sub_comm]
    exact abs_of_nonneg (by linarith)
  have below : ∀ other, other < rank + 1 →
      magnitude - magnitudeOfRank rank ≤ |magnitude - magnitudeOfRank other| := by
    intro other smaller
    have order := magnitudeOfRank_strictMono.monotone (Nat.le_of_lt_succ smaller)
    exact le_trans (by linarith) (le_abs_self _)
  have above : ∀ other, rank + 1 < other →
      magnitudeOfRank (rank + 1) - magnitude < |magnitude - magnitudeOfRank other| := by
    intro other greater
    have order := magnitudeOfRank_strictMono greater
    rw [abs_sub_comm]
    exact lt_of_lt_of_le (by linarith) (le_abs_self _)
  constructor
  · intro other
    rw [distance]
    rcases Nat.lt_trichotomy other (rank + 1) with smaller | same | greater
    · exact near.trans (below other smaller)
    · rw [same, distance]
    · exact (above other greater).le
  · intro other different tie
    rw [distance] at tie
    rcases Nat.lt_or_gt_of_ne different with smaller | greater
    · exact even (le_antisymm near (tie ▸ below other smaller))
    · exact absurd tie (above other greater).ne

theorem isNearestRank_of_close {magnitude : ℚ} {rank : Nat}
    (close : 2 ^ 54 * |magnitude - magnitudeOfRank rank| < magnitudeOfRank rank) :
    IsNearestRank magnitude rank := by
  have nearer (other : Nat) (different : other ≠ rank) :
      |magnitude - magnitudeOfRank rank| < |magnitude - magnitudeOfRank other| := by
    have apart := magnitudeOfRank_apart different
    have through := abs_sub_le (magnitudeOfRank rank) magnitude (magnitudeOfRank other)
    rw [abs_sub_comm (magnitudeOfRank rank) magnitude] at through
    linarith
  constructor
  · intro other
    by_cases same : other = rank
    · rw [same]
    · exact (nearer other same).le
  · intro other different tie
    exact absurd tie (nearer other different).ne

/-! The rank nearest to a quotient -/

theorem quotient_eq (numerator : Nat) {denominator : Nat} (positive : 0 < denominator) :
    (numerator / denominator : ℚ) =
      (numerator / denominator : Nat) + (numerator % denominator : Nat) / denominator := by
  have division : (denominator : ℚ) * (numerator / denominator : Nat) +
      (numerator % denominator : Nat) = numerator := by
    exact_mod_cast Nat.div_add_mod numerator denominator
  have nonzero : (denominator : ℚ) ≠ 0 := by positivity
  rw [← division]
  field_simp

theorem roundQuotient_cases (numerator denominator : Nat) :
    roundQuotient numerator denominator = numerator / denominator ∨
      roundQuotient numerator denominator = numerator / denominator + 1 := by
  rw [roundQuotient]
  split_ifs
  · exact Or.inl rfl
  · exact Or.inr rfl
  · rcases Nat.mod_two_eq_zero_or_one (numerator / denominator) with even | odd
    · exact Or.inl (by rw [even, Nat.add_zero])
    · exact Or.inr (by rw [odd])

theorem abs_sub_roundQuotient (numerator : Nat) {denominator : Nat} (positive : 0 < denominator) :
    |(numerator / denominator : ℚ) - roundQuotient numerator denominator| ≤ 1 / 2 := by
  have divisorPositive : (0 : ℚ) < denominator := by exact_mod_cast positive
  have proper : (numerator % denominator : Nat) < denominator := Nat.mod_lt numerator positive
  rw [quotient_eq numerator positive, roundQuotient]
  generalize numerator / denominator = whole
  generalize numerator % denominator = remainder at proper ⊢
  have fractionNonneg : (0 : ℚ) ≤ remainder / denominator := by positivity
  have fractionBelow : (remainder / denominator : ℚ) < 1 :=
    (div_lt_one divisorPositive).mpr (by exact_mod_cast proper)
  rw [abs_le]
  split_ifs with belowHalf aboveHalf
  · have half : (remainder / denominator : ℚ) ≤ 1 / 2 := by
      rw [div_le_div_iff₀ divisorPositive two_pos]
      exact_mod_cast (by omega : remainder * 2 ≤ 1 * denominator)
    constructor <;> linarith
  · have half : (1 / 2 : ℚ) ≤ remainder / denominator := by
      rw [div_le_div_iff₀ two_pos divisorPositive]
      exact_mod_cast (by omega : 1 * denominator ≤ remainder * 2)
    rw [Nat.cast_succ]
    constructor <;> linarith
  · have half : (remainder / denominator : ℚ) = 1 / 2 := by
      rw [div_eq_div_iff divisorPositive.ne' two_ne_zero]
      exact_mod_cast (by omega : remainder * 2 = 1 * denominator)
    have parity : ((whole % 2 : Nat) : ℚ) = 0 ∨ ((whole % 2 : Nat) : ℚ) = 1 := by
      rcases Nat.mod_two_eq_zero_or_one whole with even | odd
      · exact Or.inl (by rw [even, Nat.cast_zero])
      · exact Or.inr (by rw [odd, Nat.cast_one])
    rw [half, Nat.cast_add]
    rcases parity with even | odd
    · rw [even]
      constructor <;> linarith
    · rw [odd]
      constructor <;> linarith

theorem abs_sub_roundQuotient_le (numerator other : Nat) {denominator : Nat}
    (positive : 0 < denominator) :
    |(numerator / denominator : ℚ) - roundQuotient numerator denominator| ≤
      |(numerator / denominator : ℚ) - other| := by
  by_cases same : other = roundQuotient numerator denominator
  · rw [same]
  · have half := abs_sub_roundQuotient numerator positive
    have apart : (1 : ℚ) ≤ |(roundQuotient numerator denominator : ℚ) - other| := by
      have whole : (1 : ℤ) ≤ |(roundQuotient numerator denominator : ℤ) - other| :=
        Int.one_le_abs (by omega)
      exact_mod_cast whole
    have through := abs_sub_le (roundQuotient numerator denominator : ℚ)
      (numerator / denominator) other
    rw [abs_sub_comm (roundQuotient numerator denominator : ℚ) (numerator / denominator)]
      at through
    linarith

/-- The spacing that a quotient is rounded at leaves a significand of 53 bits, or fewer where the
spacing is the least. -/
theorem significand_bounds (numerator denominator : Nat) :
    let spacing := (numerator / denominator).log2 - 52
    let significand := numerator / (denominator * 2 ^ spacing)
    (spacing = 0 ∨ 2 ^ 52 ≤ significand) ∧ significand < 2 ^ 53 := by
  intro spacing significand
  have shifted : significand = numerator / denominator / 2 ^ spacing :=
    (Nat.div_div_eq_div_mul numerator denominator (2 ^ spacing)).symm
  rw [shifted]
  constructor
  · by_cases least : spacing = 0
    · exact Or.inl least
    · have binade : (numerator / denominator).log2 = 52 + spacing := by omega
      have nonzero : numerator / denominator ≠ 0 := by
        intro zero
        rw [zero, Nat.log2_zero] at binade
        omega
      have large := Nat.log2_self_le nonzero
      rw [binade, Nat.pow_add] at large
      exact Or.inr ((Nat.le_div_iff_mul_le (by positivity)).mpr large)
  · have small : numerator / denominator < 2 ^ (53 + spacing) :=
      lt_of_lt_of_le Nat.lt_log2_self (Nat.pow_le_pow_right (by decide) (by omega))
    rw [Nat.pow_add] at small
    exact (Nat.div_lt_iff_lt_mul (by positivity)).mpr small

/-- Which of two neighbours is nearest to a magnitude at a fraction of the step between them. The
fraction is given by a remainder and a divisor, as division leaves it. -/
theorem isNearestRank_of_remainder {magnitude step : ℚ} {rank remainder divisor : Nat}
    (stepPositive : 0 < step) (proper : remainder < divisor)
    (lower : magnitude - magnitudeOfRank rank = remainder / divisor * step)
    (upper : magnitudeOfRank (rank + 1) - magnitude = (1 - remainder / divisor) * step) :
    IsNearestRank magnitude
      (if 2 * remainder < divisor then rank
        else if divisor < 2 * remainder then rank + 1 else rank + rank % 2) := by
  have divisorPositive : (0 : ℚ) < divisor := by exact_mod_cast Nat.zero_lt_of_lt proper
  have fractionNonneg : (0 : ℚ) ≤ remainder / divisor := by positivity
  have fractionBelow : (remainder / divisor : ℚ) < 1 :=
    (div_lt_one divisorPositive).mpr (by exact_mod_cast proper)
  have scaled : (remainder / divisor : ℚ) * divisor = remainder :=
    div_mul_cancel₀ _ divisorPositive.ne'
  generalize (remainder / divisor : ℚ) = fraction at lower upper scaled fractionNonneg fractionBelow
  have lowerNonneg := mul_nonneg fractionNonneg stepPositive.le
  have upperPositive := mul_pos (sub_pos.mpr fractionBelow) stepPositive
  split_ifs with belowHalf aboveHalf
  · have cast : (2 * remainder : ℚ) < divisor := by exact_mod_cast belowHalf
    have half : 0 < 1 - 2 * fraction := by nlinarith
    have gap := mul_pos half stepPositive
    exact isNearestRank_of_lower (by linarith) (by linarith) (fun tie => by linarith)
  · have cast : (divisor : ℚ) < 2 * remainder := by exact_mod_cast aboveHalf
    have half : 0 < 2 * fraction - 1 := by nlinarith
    have gap := mul_pos half stepPositive
    exact isNearestRank_of_upper (by linarith) (by linarith) (fun tie => by linarith)
  · have twice : 2 * remainder = divisor := by omega
    have cast : (2 * remainder : ℚ) = divisor := by exact_mod_cast twice
    have half : fraction = 1 / 2 := by
      apply mul_right_cancel₀ divisorPositive.ne'
      linarith
    rw [half] at lower upper
    rcases Nat.mod_two_eq_zero_or_one rank with even | odd
    · rw [even, Nat.add_zero]
      exact isNearestRank_of_lower (by linarith) (by linarith) (fun _ => even)
    · rw [odd]
      exact isNearestRank_of_upper (by linarith) (by linarith) (fun _ => by omega)

theorem nearestRank_eq (numerator denominator : Nat) :
    nearestRank numerator denominator =
      let spacing := (numerator / denominator).log2 - 52
      spacing * 2 ^ 52 + roundQuotient numerator (denominator * 2 ^ spacing) :=
  rfl

theorem nearestRank_isNearest (numerator : Nat) {denominator : Nat} (positive : 0 < denominator) :
    IsNearestRank (numerator / denominator / 2 ^ 1074) (nearestRank numerator denominator) := by
  obtain ⟨normal, bound⟩ := significand_bounds numerator denominator
  rw [nearestRank_eq]
  dsimp only [roundQuotient]
  generalize (numerator / denominator).log2 - 52 = spacing at normal bound ⊢
  have scale : 0 < denominator * 2 ^ spacing := by positivity
  have division := Nat.div_add_mod numerator (denominator * 2 ^ spacing)
  have proper := Nat.mod_lt numerator scale
  generalize numerator / (denominator * 2 ^ spacing) = significand at normal bound division ⊢
  generalize numerator % (denominator * 2 ^ spacing) = remainder at division proper ⊢
  have lower := magnitudeOfRank_spacing normal bound.le
  have upper := magnitudeOfRank_spacing (normal.imp_right Nat.le_succ_of_le) bound
  rw [Nat.succ_eq_add_one, ← Nat.add_assoc, Nat.cast_succ] at upper
  have magnitude : (numerator / denominator / 2 ^ 1074 : ℚ) =
      (significand + remainder / (denominator * 2 ^ spacing : Nat)) *
        (2 ^ spacing / 2 ^ 1074) := by
    have divided : (numerator : ℚ) = denominator * 2 ^ spacing * significand + remainder := by
      exact_mod_cast division.symm
    rw [divided, Nat.cast_mul, Nat.cast_pow, Nat.cast_ofNat]
    generalize (2 : ℚ) ^ 1074 = unit
    field_simp
  have stepPositive : (0 : ℚ) < 2 ^ spacing / 2 ^ 1074 := by positivity
  rw [magnitude]
  generalize (2 ^ spacing / 2 ^ 1074 : ℚ) = step at lower upper stepPositive ⊢
  have nearest : IsNearestRank
      ((significand + remainder / (denominator * 2 ^ spacing : Nat)) * step) _ :=
    isNearestRank_of_remainder stepPositive proper (by rw [lower]; ring) (by rw [upper]; ring)
  have parity : (spacing * 2 ^ 52 + significand) % 2 = significand % 2 := by omega
  rw [parity] at nearest
  convert nearest using 1
  split_ifs <;> omega

theorem isNearestRank_nearestRank {magnitude : ℚ} {numerator denominator : Nat}
    (positive : 0 < denominator) (quotient : magnitude * 2 ^ 1074 * denominator = numerator) :
    IsNearestRank magnitude (nearestRank numerator denominator) := by
  have nearest := nearestRank_isNearest numerator positive
  have nonzero : (denominator : ℚ) ≠ 0 := by positivity
  rw [← quotient, mul_div_cancel_right₀ _ nonzero, mul_div_cancel_right₀ _ (by positivity)]
    at nearest
  exact nearest

end Catalogue

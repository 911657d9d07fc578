import Mathlib
import Catalogue.Number.Shortest
import Catalogue.Proofs.Number.Range

/-!
The decimal chosen for a double reads back as that double, no decimal of fewer digits does, and of
those with as many digits none is nearer. The numbers that round to one double are an interval, so
that a neighbour of the double on a grid reads back if anything on that side of the grid does; and
at seventeen digits the grid is finer than the doubles lie apart, so that the search always ends.
-/

namespace Catalogue

theorem ten_zpow_split {high low : Int} {places : Nat} (split : high = low + places) :
    (10 : ℚ) ^ high = 10 ^ places * 10 ^ low := by
  rw [split, zpow_add₀ (by norm_num), zpow_natCast, mul_comm]

theorem gridQuotient_eq (rank : Nat) (power : Int) :
    0 < (gridQuotient rank power).2 ∧
      ((gridQuotient rank power).1 / (gridQuotient rank power).2 : ℚ) =
        magnitudeOfRank rank / 10 ^ power := by
  rw [gridQuotient, magnitudeOfRank]
  -- Nothing here depends on the power of two, which would be evaluated.
  generalize 1074 = bits
  simp only [Nat.pow_eq]
  split_ifs with whole
  · obtain ⟨places, rfl⟩ := Int.eq_ofNat_of_zero_le whole
    refine ⟨by positivity, ?_⟩
    rw [Int.toNat_natCast, zpow_natCast, div_div, Nat.cast_mul, Nat.cast_pow, Nat.cast_pow,
      Nat.cast_ofNat, Nat.cast_ofNat]
  · obtain ⟨places, rfl⟩ : ∃ places : Nat, power = -places := ⟨(-power).toNat, by omega⟩
    refine ⟨by positivity, ?_⟩
    rw [neg_neg, Int.toNat_natCast, zpow_neg, zpow_natCast, div_inv_eq_mul, Nat.cast_mul,
      Nat.cast_pow, Nat.cast_pow, Nat.cast_ofNat, Nat.cast_ofNat, mul_div_right_comm]

theorem abs_value_sub (coefficient : Nat) (power : Int) (magnitude : ℚ) :
    |Decimal.value ⟨coefficient, power⟩ - magnitude| =
      |magnitude / 10 ^ power - coefficient| * 10 ^ power := by
  have scale : (0 : ℚ) < 10 ^ power := by positivity
  rw [← abs_of_pos scale, ← abs_mul, abs_of_pos scale, sub_mul, div_mul_cancel₀ _ scale.ne',
    abs_sub_comm]
  rfl

section

variable {rank coefficient : Nat} {power : Int} {decimal : Decimal}

def gridFloor (rank : Nat) (power : Int) : Nat :=
  (gridQuotient rank power).1 / (gridQuotient rank power).2

def gridNearest (rank : Nat) (power : Int) : Nat :=
  roundQuotient (gridQuotient rank power).1 (gridQuotient rank power).2

theorem gridFloor_bounds (rank : Nat) (power : Int) :
    Decimal.value ⟨gridFloor rank power, power⟩ ≤ magnitudeOfRank rank ∧
      magnitudeOfRank rank < Decimal.value ⟨gridFloor rank power + 1, power⟩ := by
  obtain ⟨positive, quotient⟩ := gridQuotient_eq rank power
  have scale : (0 : ℚ) < 10 ^ power := by positivity
  have divisorPositive : (0 : ℚ) < (gridQuotient rank power).2 := by exact_mod_cast positive
  simp only [Decimal.value]
  rw [← le_div_iff₀ scale, ← div_lt_iff₀ scale, ← quotient, le_div_iff₀ divisorPositive,
    div_lt_iff₀ divisorPositive, gridFloor]
  constructor
  · exact_mod_cast Nat.div_mul_le_self _ _
  · rw [mul_comm]
    exact_mod_cast Nat.lt_mul_div_succ _ positive

theorem gridNearest_cases (rank : Nat) (power : Int) :
    gridNearest rank power = gridFloor rank power ∨
      gridNearest rank power = gridFloor rank power + 1 :=
  roundQuotient_cases _ _

theorem gridNearest_near (rank : Nat) (power : Int) :
    |Decimal.value ⟨gridNearest rank power, power⟩ - magnitudeOfRank rank| ≤ 10 ^ power / 2 := by
  obtain ⟨positive, quotient⟩ := gridQuotient_eq rank power
  have half := abs_sub_roundQuotient (gridQuotient rank power).1 positive
  have scaled := mul_le_mul_of_nonneg_right half (show (0 : ℚ) ≤ 10 ^ power by positivity)
  rw [abs_value_sub, ← quotient]
  exact scaled.trans_eq (by ring)

theorem gridNearest_nearest (rank other : Nat) (power : Int) :
    |Decimal.value ⟨gridNearest rank power, power⟩ - magnitudeOfRank rank| ≤
      |Decimal.value ⟨other, power⟩ - magnitudeOfRank rank| := by
  obtain ⟨positive, quotient⟩ := gridQuotient_eq rank power
  rw [abs_value_sub, abs_value_sub, ← quotient]
  exact mul_le_mul_of_nonneg_right (abs_sub_roundQuotient_le _ other positive) (by positivity)

theorem gridDecimal?_eq_some (found : gridDecimal? rank power = some decimal) :
    decimal.rank = rank ∧ decimal.exponent = power ∧
      decimal.coefficient ≤ gridFloor rank power + 1 := by
  obtain ⟨coefficient, tried, reads⟩ := List.exists_of_findSome?_eq_some found
  have bound : coefficient ≤ gridFloor rank power + 1 := by
    have nearest := gridNearest_cases rank power
    rw [List.mem_pair] at tried
    rcases tried with rfl | rfl
    · rcases nearest with same | same
      · exact same.trans_le (Nat.le_succ _)
      · exact same.le
    · split_ifs
      · exact le_rfl
      · exact Nat.le_succ _
  split at reads
  · rename_i same
    obtain rfl := Option.some.inj reads
    exact ⟨same, rfl, bound⟩
  · exact absurd reads nofun

theorem gridDecimal?_of_neighbour {neighbour : Nat}
    (isNeighbour : neighbour = gridFloor rank power ∨ neighbour = gridFloor rank power + 1)
    (reads : Decimal.rank ⟨neighbour, power⟩ = rank) :
    ∃ found, gridDecimal? rank power = some found ∧
      |found.value - magnitudeOfRank rank| ≤
        |Decimal.value ⟨neighbour, power⟩ - magnitudeOfRank rank| := by
  have tried : gridDecimal? rank power =
      [gridNearest rank power, if gridNearest rank power = gridFloor rank power then
        gridFloor rank power + 1 else gridFloor rank power].findSome? fun coefficient =>
          if Decimal.rank ⟨coefficient, power⟩ = rank then some ⟨coefficient, power⟩ else none :=
    rfl
  rw [tried, List.findSome?_cons]
  by_cases nearestReads : Decimal.rank ⟨gridNearest rank power, power⟩ = rank
  · rw [if_pos nearestReads]
    exact ⟨_, rfl, gridNearest_nearest rank neighbour power⟩
  · have other : (if gridNearest rank power = gridFloor rank power then gridFloor rank power + 1
        else gridFloor rank power) = neighbour := by
      have nearest := gridNearest_cases rank power
      have different : neighbour ≠ gridNearest rank power := by
        rintro rfl
        exact nearestReads reads
      split_ifs <;> omega
    rw [if_neg nearestReads, other, List.findSome?_cons, if_pos reads]
    exact ⟨_, rfl, le_rfl⟩

/-- What reads back on a side of a double does so together with the neighbour on that side. -/
theorem exists_neighbour (below : rank < rankLimit)
    (reads : Decimal.rank ⟨coefficient, power⟩ = rank) :
    ∃ neighbour, (neighbour = gridFloor rank power ∨ neighbour = gridFloor rank power + 1) ∧
      Decimal.rank ⟨neighbour, power⟩ = rank ∧
        |Decimal.value ⟨neighbour, power⟩ - magnitudeOfRank rank| ≤
          |Decimal.value ⟨coefficient, power⟩ - magnitudeOfRank rank| := by
  have nearest := (Decimal.rank_eq_iff below).mp reads
  have itself := isNearestRank_magnitudeOfRank rank
  obtain ⟨lower, upper⟩ := gridFloor_bounds rank power
  have order {few many : Nat} (smaller : few ≤ many) :
      Decimal.value ⟨few, power⟩ ≤ Decimal.value ⟨many, power⟩ :=
    mul_le_mul_of_nonneg_right (by exact_mod_cast smaller) (by positivity)
  rcases Nat.lt_or_ge (gridFloor rank power) coefficient with above | under
  · have step := order (Nat.succ_le_of_lt above)
    refine ⟨_, Or.inr rfl, ?_, ?_⟩
    · exact (Decimal.rank_eq_iff below).mpr
        (itself.between (magnitudeOfRank_nonneg rank) nearest upper.le step)
    · rw [abs_of_nonneg (by linarith), abs_of_nonneg (by linarith)]
      linarith
  · have step := order under
    refine ⟨_, Or.inl rfl, ?_, ?_⟩
    · exact (Decimal.rank_eq_iff below).mpr
        (nearest.between (Decimal.value_nonneg _) itself step lower)
    · rw [abs_of_nonpos (by linarith), abs_of_nonpos (by linarith)]
      linarith

theorem gridDecimal?_of_rank (below : rank < rankLimit)
    (reads : Decimal.rank ⟨coefficient, power⟩ = rank) :
    ∃ found, gridDecimal? rank power = some found ∧
      |found.value - magnitudeOfRank rank| ≤
        |Decimal.value ⟨coefficient, power⟩ - magnitudeOfRank rank| := by
  obtain ⟨neighbour, isNeighbour, readsToo, near⟩ := exists_neighbour below reads
  obtain ⟨found, isFound, nearer⟩ := gridDecimal?_of_neighbour isNeighbour readsToo
  exact ⟨found, isFound, nearer.trans near⟩

end

theorem length_toDigits_bounds {number : Nat} (positive : 0 < number) :
    10 ^ ((Nat.toDigits 10 number).length - 1) ≤ number ∧
      number < 10 ^ (Nat.toDigits 10 number).length := by
  have one := Nat.length_toDigits_pos (b := 10) (n := number)
  constructor
  · by_contra small
    by_cases single : (Nat.toDigits 10 number).length = 1
    · rw [single] at small
      exact small positive
    · have shorter := (Nat.length_toDigits_le_iff (by decide) (by omega)).mpr
        (Nat.lt_of_not_le small)
      omega
  · exact (Nat.length_toDigits_le_iff (by decide) one).mp le_rfl

theorem place_bounds {quanta unit places : Nat} (present : 0 < quanta) (positive : 0 < unit)
    (fine : unit ≤ 10 ^ places) :
    let length : Int := (Nat.toDigits 10 (quanta * 10 ^ places / unit)).length
    10 ^ (length - places - 1) ≤ (quanta / unit : ℚ) ∧
      (quanta / unit : ℚ) < 10 ^ (length - places) := by
  intro length
  have counted : 0 < quanta * 10 ^ places / unit :=
    Nat.div_pos (fine.trans (Nat.le_mul_of_pos_left _ present)) positive
  obtain ⟨least, limit⟩ := length_toDigits_bounds counted
  have one := Nat.length_toDigits_pos (b := 10) (n := quanta * 10 ^ places / unit)
  have unitPositive : (0 : ℚ) < unit := by exact_mod_cast positive
  have scale : (0 : ℚ) < 10 ^ places := by positivity
  rw [Nat.le_div_iff_mul_le positive] at least
  rw [Nat.div_lt_iff_lt_mul positive] at limit
  constructor
  · have exponent : length - places - 1 =
        ((Nat.toDigits 10 (quanta * 10 ^ places / unit)).length - 1 : Nat) - (places : Int) := by
      omega
    rw [exponent, zpow_sub₀ (by norm_num), zpow_natCast, zpow_natCast,
      div_le_div_iff₀ scale unitPositive]
    exact_mod_cast least
  · rw [zpow_sub₀ (by norm_num), zpow_natCast, zpow_natCast, div_lt_div_iff₀ unitPositive scale]
    exact_mod_cast limit

theorem decimalPlace_bounds {rank : Nat} (nonzero : rank ≠ 0) :
    10 ^ (decimalPlace rank - 1) ≤ magnitudeOfRank rank ∧
      magnitudeOfRank rank < 10 ^ decimalPlace rank := by
  have present : 0 < quantaOfRank rank := by
    have order := quantaOfRank_strictMono (Nat.pos_of_ne_zero nonzero)
    rwa [quantaOfRank_zero] at order
  have fine : Nat.pow 2 1074 ≤ Nat.pow 10 324 := by decide +kernel
  have units : (324 : Int) = (324 : Nat) := rfl
  rw [decimalPlace, magnitudeOfRank, units]
  generalize 1074 = bits at fine ⊢
  generalize 324 = places at fine ⊢
  have bounds := place_bounds present (Nat.two_pow_pos bits) fine
  rw [Nat.cast_pow, Nat.cast_ofNat] at bounds
  exact bounds

/-! The search -/

section

variable {rank count : Nat} {decimal : Decimal}

/-- At seventeen digits half a step of the grid is less than half the way to another double. -/
theorem isNearestRank_seventeen (nonzero : rank ≠ 0) :
    IsNearestRank (Decimal.value ⟨gridNearest rank (decimalPlace rank - 17),
      decimalPlace rank - 17⟩) rank := by
  have near := gridNearest_near rank (decimalPlace rank - 17)
  have least := (decimalPlace_bounds nonzero).1
  have steps : (10 : ℚ) ^ (decimalPlace rank - 1) = 10 ^ 16 * 10 ^ (decimalPlace rank - 17) :=
    ten_zpow_split (by omega)
  have positive : (0 : ℚ) < 10 ^ (decimalPlace rank - 17) := by positivity
  apply isNearestRank_of_close
  rw [steps] at least
  linarith

theorem of_findSome?_range {step : Nat → Option Decimal} {limit : Nat}
    (found : (List.range limit).findSome? step = some decimal) :
    ∃ index < limit, step index = some decimal ∧ ∀ earlier < index, step earlier = none := by
  obtain ⟨front, index, back, split, hit, missed⟩ := List.findSome?_eq_some_iff.mp found
  have sorted : (front ++ index :: back).Pairwise (· < ·) := by
    rw [← split]
    exact List.pairwise_lt_range
  have below : index < limit := List.mem_range.mp (by rw [split]; simp)
  refine ⟨index, below, hit, fun earlier less => ?_⟩
  have member : earlier ∈ front ++ index :: back := by
    rw [← split]
    exact List.mem_range.mpr (less.trans below)
  rcases List.mem_append.mp member with inFront | inBack
  · exact missed earlier inFront
  · rcases List.mem_cons.mp inBack with rfl | later
    · exact absurd less (Nat.lt_irrefl _)
    · have order := List.rel_of_pairwise_cons (List.pairwise_append.mp sorted).2.1 later
      exact absurd less (Nat.lt_asymm order)

theorem shortestDecimal_first (below : rank < rankLimit) (nonzero : rank ≠ 0) :
    ∃ count : Nat, 0 < count ∧ count ≤ 17 ∧
      gridDecimal? rank (decimalPlace rank - count) = some (shortestDecimal rank) ∧
      ∀ fewer : Nat, 0 < fewer → fewer < count →
        gridDecimal? rank (decimalPlace rank - fewer) = none := by
  have reads := (Decimal.rank_eq_iff below).mpr (isNearestRank_seventeen nonzero)
  obtain ⟨last, isLast, _⟩ := gridDecimal?_of_rank below reads
  have ends : ((List.range 17).findSome? fun digits =>
      gridDecimal? rank (decimalPlace rank - (digits + 1 : Nat))).isSome = true :=
    List.findSome?_isSome_iff.mpr
      ⟨16, List.mem_range.mpr (by decide), Option.isSome_iff_exists.mpr ⟨last, isLast⟩⟩
  obtain ⟨found, isFound⟩ := Option.isSome_iff_exists.mp ends
  have chosen : shortestDecimal rank = found := by
    rw [shortestDecimal, isFound, Option.getD_some]
  obtain ⟨index, inRange, hit, missed⟩ := of_findSome?_range isFound
  refine ⟨index + 1, Nat.succ_pos index, inRange, chosen ▸ hit, fun fewer positive less => ?_⟩
  obtain ⟨earlier, rfl⟩ := Nat.exists_eq_succ_of_ne_zero positive.ne'
  exact missed earlier (Nat.lt_of_succ_lt_succ less)

theorem shortestDecimal_rank (below : rank < rankLimit) (nonzero : rank ≠ 0) :
    (shortestDecimal rank).rank = rank := by
  obtain ⟨count, _, _, found, _⟩ := shortestDecimal_first below nonzero
  exact (gridDecimal?_eq_some found).1

theorem shortestDecimal_isNearest (below : rank < rankLimit) (nonzero : rank ≠ 0) :
    IsNearestRank (shortestDecimal rank).value rank :=
  (Decimal.rank_eq_iff below).mp (shortestDecimal_rank below nonzero)

theorem shortestDecimal_coefficient_ne_zero (below : rank < rankLimit) (nonzero : rank ≠ 0) :
    (shortestDecimal rank).coefficient ≠ 0 := by
  apply Decimal.coefficient_ne_zero
  rw [shortestDecimal_rank below nonzero]
  exact nonzero

namespace Decimal

def Fits (decimal : Decimal) (count : Nat) : Prop :=
  ∃ other : Decimal, other.value = decimal.value ∧ other.coefficient < 10 ^ count

/-- What so many digits write stands on their grid, or is below the power of ten that is the least
there. -/
theorem exists_onGrid (below : rank < rankLimit) (nonzero : rank ≠ 0)
    (reads : decimal.rank = rank) (few : decimal.coefficient < 10 ^ count) :
    0 < count ∧ ∃ coefficient,
      Decimal.rank ⟨coefficient, decimalPlace rank - count⟩ = rank ∧
        |Decimal.value ⟨coefficient, decimalPlace rank - count⟩ - magnitudeOfRank rank| ≤
          |decimal.value - magnitudeOfRank rank| := by
  have nearest := (rank_eq_iff below).mp reads
  have present := coefficient_ne_zero (reads.trans_ne nonzero)
  have positive : 0 < count := by
    refine Nat.pos_of_ne_zero ?_
    rintro rfl
    exact present (Nat.lt_one_iff.mp few)
  refine ⟨positive, ?_⟩
  rcases le_or_gt (decimalPlace rank - count) decimal.exponent with fine | coarse
  · obtain ⟨places, same⟩ := Int.le.dest fine
    have value : Decimal.value ⟨decimal.coefficient * 10 ^ places, decimalPlace rank - count⟩ =
        decimal.value := by
      simp only [Decimal.value]
      rw [ten_zpow_split same.symm, Nat.cast_mul, Nat.cast_pow, Nat.cast_ofNat, mul_assoc]
    exact ⟨_, (rank_eq_iff below).mpr (value.symm ▸ nearest), by rw [value]⟩
  · have least := (decimalPlace_bounds nonzero).1
    have value : Decimal.value ⟨10 ^ (count - 1), decimalPlace rank - count⟩ =
        10 ^ (decimalPlace rank - 1) := by
      have steps : (10 : ℚ) ^ (decimalPlace rank - 1) =
          10 ^ (count - 1) * 10 ^ (decimalPlace rank - count) := ten_zpow_split (by omega)
      rw [Decimal.value, Nat.cast_pow, Nat.cast_ofNat, steps]
    have under : decimal.value ≤ 10 ^ (decimalPlace rank - 1) := by
      have bound : (decimal.coefficient : ℚ) ≤ 10 ^ count := by exact_mod_cast few.le
      calc decimal.value ≤ 10 ^ count * 10 ^ decimal.exponent := by
            unfold Decimal.value
            gcongr
        _ = 10 ^ (decimal.exponent + count) := (ten_zpow_split rfl).symm
        _ ≤ 10 ^ (decimalPlace rank - 1) := zpow_le_zpow_right₀ (by norm_num) (by omega)
    refine ⟨10 ^ (count - 1), ?_, ?_⟩
    · rw [rank_eq_iff below, value]
      exact nearest.between decimal.value_nonneg (isNearestRank_magnitudeOfRank rank) under least
    · rw [value, abs_of_nonpos (by linarith), abs_of_nonpos (by linarith)]
      linarith

end Decimal

theorem gridFloor_lt (nonzero : rank ≠ 0) (count : Nat) :
    gridFloor rank (decimalPlace rank - count) < 10 ^ count := by
  have small := (gridFloor_bounds rank (decimalPlace rank - count)).1.trans_lt
    (decimalPlace_bounds nonzero).2
  have steps : (10 : ℚ) ^ decimalPlace rank = 10 ^ count * 10 ^ (decimalPlace rank - count) :=
    ten_zpow_split (by omega)
  rw [Decimal.value, steps] at small
  exact_mod_cast lt_of_mul_lt_mul_right small (by positivity)

theorem fits_of_gridDecimal? (nonzero : rank ≠ 0) (positive : 0 < count)
    (found : gridDecimal? rank (decimalPlace rank - count) = some decimal) :
    decimal.Fits count := by
  obtain ⟨_, onGrid, bound⟩ := gridDecimal?_eq_some found
  have digits := bound.trans (Nat.succ_le_of_lt (gridFloor_lt nonzero count))
  rcases Nat.lt_or_eq_of_le digits with fewer | full
  · exact ⟨decimal, rfl, fewer⟩
  · refine ⟨⟨1, decimalPlace rank⟩, ?_, Nat.one_lt_pow positive.ne' (by decide)⟩
    have steps : (10 : ℚ) ^ decimalPlace rank = 10 ^ count * 10 ^ (decimalPlace rank - count) :=
      ten_zpow_split (by omega)
    simp only [Decimal.value]
    rw [full, onGrid, Nat.cast_pow, Nat.cast_one, one_mul, Nat.cast_ofNat, steps]

/-- The decimal chosen for a double reads back with so many digits. Nothing with fewer does, and
nothing with as many that is nearer. -/
theorem shortestDecimal_shortest (below : rank < rankLimit) (nonzero : rank ≠ 0) :
    ∃ count ≤ 17, (shortestDecimal rank).rank = rank ∧ (shortestDecimal rank).Fits count ∧
      ∀ other : Decimal, other.rank = rank → ∀ digits, other.Fits digits →
        count ≤ digits ∧ (digits = count →
          |(shortestDecimal rank).value - magnitudeOfRank rank| ≤
            |other.value - magnitudeOfRank rank|) := by
  obtain ⟨count, positive, few, found, missed⟩ := shortestDecimal_first below nonzero
  refine ⟨count, few, (gridDecimal?_eq_some found).1, fits_of_gridDecimal? nonzero positive found,
    fun other reads digits fits => ?_⟩
  obtain ⟨written, same, short⟩ := fits
  have readsToo : written.rank = rank := by
    rw [Decimal.rank_eq_iff below] at reads ⊢
    rwa [same]
  obtain ⟨present, coefficient, onGrid, near⟩ := Decimal.exists_onGrid below nonzero readsToo short
  obtain ⟨nearest, isNearest, nearer⟩ := gridDecimal?_of_rank below onGrid
  refine ⟨?_, ?_⟩
  · by_contra fewer
    rw [missed digits present (Nat.lt_of_not_le fewer)] at isNearest
    exact absurd isNearest nofun
  · rintro rfl
    obtain rfl := Option.some.inj (found.symm.trans isNearest)
    rw [← same]
    exact nearer.trans near

end

end Catalogue

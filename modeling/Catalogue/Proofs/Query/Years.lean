import Mathlib
import Catalogue.Proofs.Matching.Rounded
import Catalogue.Proofs.Number.Whole
import Catalogue.Proofs.Query.Places

/-!
Ranges of years against exact numbers. Bounds and years are rounded to doubles one by one before
they are compared. Since rounding keeps their order, no painting of a range is lost, and one outside
of it is found only where its year and the bound have one double.
-/

namespace Catalogue

/-! Numbers and the doubles that they are read as -/

structure Json.Value.IsExactly (value : Json.Value) (number : ℚ) : Prop where
  reads : value.number?.isSome = true
  denotes : ∃ negative magnitude, value.Denotes negative magnitude ∧
    number = signed negative magnitude

def IsDouble (number : ℚ) : Prop := ∃ double : FiniteDouble, double.value = number

theorem Json.Value.IsExactly.isRoundingOf {value : Json.Value} {number : ℚ}
    {double : FiniteDouble} (exact : value.IsExactly number)
    (reads : value.number? = some double) : double.IsRoundingOf number := by
  obtain ⟨_, negative, magnitude, denotes, rfl⟩ := exact
  obtain ⟨rounded, rounds, same⟩ := denotes.exists_rounded
  rw [reads] at same
  obtain rfl := Double.finite?_eq_some.mp same.symm
  obtain ⟨rfl, nearest⟩ := RoundsTo.finite_iff.mp rounds
  exact ⟨magnitude, denotes.nonneg, nearest, rfl⟩

theorem IsDouble.value_eq {number : ℚ} {double : FiniteDouble} (isDouble : IsDouble number)
    (rounds : double.IsRoundingOf number) : double.value = number := by
  obtain ⟨other, rfl⟩ := isDouble
  exact rounds.value_eq

theorem FiniteDouble.value_eq_iff {left right : FiniteDouble} :
    left.value = right.value ↔ left = right ∨ left.rank = 0 ∧ right.rank = 0 := by
  rw [value_eq_quanta, value_eq_quanta, div_left_inj' (by positivity), Int.cast_inj,
    ← equals_iff_quanta]
  exact equals_iff

/-- Of two numbers in this order the doubles are not in the other order, unless they are one. -/
theorem FiniteDouble.IsRoundingOf.eq_or_zero {left right : FiniteDouble} {number other : ℚ}
    (rounds : left.IsRoundingOf number) (otherRounds : right.IsRoundingOf other)
    (order : number < other) (reversed : right.value ≤ left.value) :
    left = right ∨ left.rank = 0 ∧ right.rank = 0 :=
  value_eq_iff.mp (le_antisymm (rounds.value_le otherRounds order.le) reversed)

theorem signed_natAbs (number : Int) : signed (number < 0) number.natAbs = number := by
  have whole : (number.natAbs : ℚ) = |(number : ℚ)| := by
    rw [Nat.cast_natAbs, Int.cast_abs]
  rw [signed, whole]
  split_ifs with negative
  · rw [abs_of_neg (by simpa using negative), neg_neg]
  · exact abs_of_nonneg (by simpa using negative)

theorem isDouble_of_small {number : Int} (small : number.natAbs ≤ 2 ^ 53) :
    IsDouble number := by
  obtain ⟨rank, rung⟩ := exists_magnitudeOfRank small
  have below : magnitudeOfRank rank < magnitudeOfRank rankLimit := by
    rw [rung, magnitudeOfRank_rankLimit]
    calc (number.natAbs : ℚ) ≤ 2 ^ 53 := by exact_mod_cast small
      _ < 2 ^ 1024 := pow_lt_pow_right₀ one_lt_two (by norm_num)
  refine ⟨⟨number < 0, rank, magnitudeOfRank_strictMono.lt_iff_lt.mp below⟩, ?_⟩
  calc signed (number < 0) (magnitudeOfRank rank)
      = signed (number < 0) number.natAbs := congrArg (signed _) rung
    _ = number := signed_natAbs number

namespace Query

variable {least greatest : Text} {painting : Painting}

theorem selects_years_iff :
    selects (.years least greatest) painting = true ↔
      ∃ low high year, least.number? = some low ∧ greatest.number? = some high ∧
        painting.year.number? = some year ∧ low.value ≤ year.value ∧ year.value ≤ high.value := by
  rw [selects]
  cases least.number? with
  | none => simp
  | some low =>
      cases greatest.number? with
      | none => simp
      | some high =>
          cases year : painting.year.number? with
          | none => simp [Painting.isWithin, year]
          | some year => simp [Painting.isWithin, year, FiniteDouble.atMost_iff]

theorem answerOver_years (least greatest : Text) (document : Document) :
    answerOver (.years least greatest) document =
      if document.filter (selects (.years least greatest)) = [] then
        .error (.notFound (.years least greatest))
      else .ok (.many (document.filter (selects (.years least greatest)))) := by
  rw [answerOver, select_years, Selection.ofDocument?]
  cases document.filter (selects (.years least greatest)) <;> rfl

theorem selects_years_of_reads {low high year : FiniteDouble} (lowReads : least.number? = some low)
    (highReads : greatest.number? = some high) (yearReads : painting.year.number? = some year) :
    selects (.years least greatest) painting = true ↔
      low.value ≤ year.value ∧ year.value ≤ high.value := by
  rw [selects_years_iff]
  simp [lowReads, highReads, yearReads]

/-- The paintings that are found for a range of years are those of the document that a test keeps,
which can be told by exact numbers. All that lie in the range are kept. One that does not lie in it
is kept only where its year has the double of the bound that it is beyond, the two zeros being one
double. Where no number is rounded, nothing else is kept than what lies in the range. -/
theorem years_in_range (least greatest : Text) :
    ∃ keeps : Painting → Bool,
      (∀ document : Document, answerOver (.years least greatest) document =
        if document.filter keeps = [] then .error (.notFound (.years least greatest))
        else .ok (.many (document.filter keeps))) ∧
      (∀ (painting : Painting) (low high year : ℚ),
        (Json.Value.string least).IsExactly low → (Json.Value.string greatest).IsExactly high →
        painting.year.IsExactly year →
          (low ≤ year → year ≤ high → keeps painting = true) ∧
          (keeps painting = true → year < low → ∃ rounded bound,
            painting.year.number? = some rounded ∧ least.number? = some bound ∧
              (rounded = bound ∨ rounded.rank = 0 ∧ bound.rank = 0)) ∧
          (keeps painting = true → high < year → ∃ rounded bound,
            painting.year.number? = some rounded ∧ greatest.number? = some bound ∧
              (rounded = bound ∨ rounded.rank = 0 ∧ bound.rank = 0)) ∧
          (IsDouble low → IsDouble high → IsDouble year →
            (keeps painting = true ↔ low ≤ year ∧ year ≤ high))) ∧
      (∀ painting : Painting, keeps painting = true → least.number?.isSome = true ∧
        greatest.number?.isSome = true ∧ painting.year.number?.isSome = true) ∧
      (∀ low high : FiniteDouble, least.number? = some low → greatest.number? = some high →
        high.value < low.value → ∀ painting, keeps painting = false) ∧
      ∀ number : Int, number.natAbs ≤ 2 ^ 53 → IsDouble number := by
  refine ⟨selects (.years least greatest), answerOver_years least greatest, ?_, ?_, ?_, ?_⟩
  · intro painting low high year exactLow exactHigh exactYear
    obtain ⟨lowDouble, lowReads⟩ := Option.isSome_iff_exists.mp exactLow.reads
    obtain ⟨highDouble, highReads⟩ := Option.isSome_iff_exists.mp exactHigh.reads
    obtain ⟨yearDouble, yearReads⟩ := Option.isSome_iff_exists.mp exactYear.reads
    have lowRounds := exactLow.isRoundingOf lowReads
    have highRounds := exactHigh.isRoundingOf highReads
    have yearRounds := exactYear.isRoundingOf yearReads
    rw [selects_years_of_reads lowReads highReads yearReads]
    refine ⟨?_, ?_, ?_, ?_⟩
    · intro above below
      exact ⟨lowRounds.value_le yearRounds above, yearRounds.value_le highRounds below⟩
    · intro kept before
      exact ⟨yearDouble, lowDouble, yearReads, lowReads,
        yearRounds.eq_or_zero lowRounds before kept.1⟩
    · intro kept past
      have same := highRounds.eq_or_zero yearRounds past kept.2
      exact ⟨yearDouble, highDouble, yearReads, highReads, same.imp Eq.symm And.symm⟩
    · intro lowIs highIs yearIs
      rw [lowIs.value_eq lowRounds, highIs.value_eq highRounds, yearIs.value_eq yearRounds]
  · intro painting kept
    obtain ⟨low, high, year, lowReads, highReads, yearReads, _⟩ := selects_years_iff.mp kept
    rw [lowReads, highReads, yearReads]
    exact ⟨rfl, rfl, rfl⟩
  · intro low high lowReads highReads inverted painting
    rw [← Bool.not_eq_true]
    intro kept
    obtain ⟨_, _, year, sameLow, sameHigh, _, above, below⟩ := selects_years_iff.mp kept
    rw [lowReads] at sameLow
    rw [highReads] at sameHigh
    obtain rfl := Option.some.inj sameLow
    obtain rfl := Option.some.inj sameHigh
    linarith
  · intro number small
    exact isDouble_of_small small

theorem years_in_range_rounded :
    answerOver (.years (Text.ofInt 9007199254740993) (Text.ofInt 9007199254740993))
        [⟨[("yearOfWork", .integer 9007199254740993)]⟩] =
      .ok (.many [⟨[("yearOfWork", .integer 9007199254740993)]⟩]) := by
  obtain ⟨keeps, answered, exact, _⟩ :=
    years_in_range (Text.ofInt 9007199254740993) (Text.ofInt 9007199254740993)
  have bound : (Json.Value.string (Text.ofInt 9007199254740993)).IsExactly
      (9007199254740993 : Int) :=
    ⟨by decide +kernel, _, _, .string (Json.writes_ofInt _), (signed_natAbs _).symm⟩
  have year : (Painting.year ⟨[("yearOfWork", .integer 9007199254740993)]⟩).IsExactly
      (9007199254740993 : Int) :=
    ⟨by decide +kernel, _, _, .integer _, (signed_natAbs _).symm⟩
  have kept := (exact _ _ _ _ bound bound year).1 le_rfl le_rfl
  rw [answered]
  simp [kept]

end Query

end Catalogue

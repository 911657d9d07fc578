import Mathlib
import Catalogue.Proofs.Matching
import Catalogue.Proofs.Number.Bits

/-!
Values as exact numbers. Whole numbers, finite doubles and the texts of plain decimals denote exact
numbers, and a value reads as the finite double nearest to what it denotes where there is one.
-/

namespace Catalogue.Json.Value

inductive Denotes : Value → Bool → ℚ → Prop
  | integer (number : Int) : Denotes (.integer number) (number < 0) number.natAbs
  | double (double : FiniteDouble) : Denotes (.double (.finite double))
      (DoubleBits.negative double.bits) (DoubleBits.magnitude double.bits)
  | string {text : Text} {negative : Bool} {magnitude : ℚ} : text.Writes negative magnitude →
      Denotes (.string text) negative magnitude

variable {value : Value} {negative : Bool} {magnitude : ℚ}

theorem Denotes.unique {otherNegative : Bool} {otherMagnitude : ℚ}
    (denotes : value.Denotes negative magnitude)
    (otherDenotes : value.Denotes otherNegative otherMagnitude) :
    negative = otherNegative ∧ magnitude = otherMagnitude := by
  cases denotes with
  | integer number =>
      cases otherDenotes
      exact ⟨rfl, rfl⟩
  | double double =>
      cases otherDenotes
      exact ⟨rfl, rfl⟩
  | string writes =>
      cases otherDenotes with
      | string otherWrites => exact writes.unique otherWrites

theorem Denotes.nonneg (denotes : value.Denotes negative magnitude) : 0 ≤ magnitude := by
  cases denotes with
  | integer number => exact Nat.cast_nonneg _
  | double double =>
      rw [DoubleBits.magnitude_eq]
      exact magnitudeOfRank_nonneg _
  | string writes => exact writes.nonneg

theorem Denotes.exists_rounded (denotes : value.Denotes negative magnitude) :
    ∃ double, RoundsTo negative magnitude double ∧ value.number? = double.finite? := by
  cases denotes with
  | integer number => exact ⟨Double.ofInt number, Double.roundsTo_ofInt number, rfl⟩
  | double double =>
      refine ⟨.finite double, RoundsTo.finite_iff.mpr ⟨double.negative_bits.symm, ?_⟩, rfl⟩
      rw [DoubleBits.magnitude_eq, double.rank_bits]
      exact isNearestRank_magnitudeOfRank double.rank
  | string writes =>
      obtain ⟨rank, nearest⟩ := exists_isNearestRank writes.nonneg
      exact ⟨_, ⟨rank, nearest, rfl⟩, writes.number?_eq ⟨rank, nearest, rfl⟩⟩

theorem exists_denotes {double : FiniteDouble} (reads : value.number? = some double) :
    ∃ negative magnitude, value.Denotes negative magnitude := by
  cases value with
  | integer number => exact ⟨_, _, Denotes.integer number⟩
  | double number =>
      obtain rfl := Double.finite?_eq_some.mp reads
      exact ⟨_, _, Denotes.double double⟩
  | string text =>
      obtain ⟨negative, magnitude, writes⟩ := Text.exists_writes reads
      exact ⟨negative, magnitude, Denotes.string writes⟩
  | null | boolean _ | array _ | object _ => exact absurd reads nofun

theorem isSome_number?_iff : value.number?.isSome = true ↔
    ∃ negative magnitude, value.Denotes negative magnitude ∧ magnitude < overflowThreshold := by
  constructor
  · intro reads
    obtain ⟨double, found⟩ := Option.isSome_iff_exists.mp reads
    obtain ⟨negative, magnitude, denotes⟩ := exists_denotes found
    obtain ⟨rounded, rounds, same⟩ := denotes.exists_rounded
    rw [same] at reads
    exact ⟨negative, magnitude, denotes, rounds.isSome_finite?.mp reads⟩
  · rintro ⟨negative, magnitude, denotes, small⟩
    obtain ⟨rounded, rounds, same⟩ := denotes.exists_rounded
    rw [same]
    exact rounds.isSome_finite?.mpr small

theorem number?_bits_iff {pattern : BitVec 64} :
    value.number?.map FiniteDouble.bits = some pattern ↔
      ∃ negative magnitude, value.Denotes negative magnitude ∧ magnitude < overflowThreshold ∧
        DoubleBits.negative pattern = negative ∧
          DoubleBits.IsNearest (signed negative magnitude) pattern := by
  constructor
  · intro found
    obtain ⟨double, reads, _⟩ := Option.map_eq_some_iff.mp found
    obtain ⟨negative, magnitude, denotes⟩ := exists_denotes reads
    obtain ⟨rounded, rounds, same⟩ := denotes.exists_rounded
    rw [same] at found
    exact ⟨negative, magnitude, denotes, (rounds.bits_iff denotes.nonneg).mp found⟩
  · rintro ⟨negative, magnitude, denotes, nearest⟩
    obtain ⟨rounded, rounds, same⟩ := denotes.exists_rounded
    rw [same]
    exact (rounds.bits_iff denotes.nonneg).mpr nearest

/-- A value denotes one number at most, reads as a number when that is below the overflow
threshold, and then as the finite double with its sign that is nearest to it. A whole number and
its text read alike, and blanks around a text do not matter. -/
theorem number?_nearest :
    (∀ (value : Value) (negative otherNegative : Bool) (magnitude otherMagnitude : ℚ),
      value.Denotes negative magnitude → value.Denotes otherNegative otherMagnitude →
        negative = otherNegative ∧ magnitude = otherMagnitude) ∧
    (∀ value : Value, value.number?.isSome = true ↔
      ∃ negative magnitude, value.Denotes negative magnitude ∧ magnitude < overflowThreshold) ∧
    (∀ (value : Value) (pattern : BitVec 64),
      value.number?.map FiniteDouble.bits = some pattern ↔
        ∃ negative magnitude, value.Denotes negative magnitude ∧ magnitude < overflowThreshold ∧
          DoubleBits.negative pattern = negative ∧
            DoubleBits.IsNearest (signed negative magnitude) pattern) ∧
    (∀ number : Int, (integer number).number? = (string (Text.ofInt number)).number?) ∧
    (∀ before text after : Text, before.AreBlank → after.AreBlank →
      (string (before ++ text ++ after)).number? = (string text).number?) ∧
    ∀ value : Value, ¬ value.IsNameable → value.number? = none := by
  refine ⟨?_, fun value => isSome_number?_iff, fun value pattern => number?_bits_iff, ?_, ?_, ?_⟩
  · intro value negative otherNegative magnitude otherMagnitude denotes otherDenotes
    exact denotes.unique otherDenotes
  · intro number
    exact (number?_ofInt number).symm
  · intro before text after blankBefore blankAfter
    exact Text.number?_append blankBefore blankAfter
  · intro value notNameable
    cases value with
    | integer _ | double _ | string _ => exact absurd trivial notNameable
    | null | boolean _ | array _ | object _ => rfl

theorem number?_nearest_underflow :
    (∃ negative magnitude, (string "-1e-400").Denotes negative magnitude ∧
      magnitude < overflowThreshold ∧ DoubleBits.negative (BitVec.twoPow 64 63) = negative ∧
        DoubleBits.IsNearest (signed negative magnitude) (BitVec.twoPow 64 63)) ∧
    (string (Text.ofString "\t" ++ "-1e-400" ++ " ")).number? = (string "-1e-400").number? ∧
    (boolean true).number? = none := by
  obtain ⟨_, _, nearest, _, surrounded, others⟩ := number?_nearest
  refine ⟨?_, ?_, others (boolean true) id⟩
  · exact (nearest (string "-1e-400") (BitVec.twoPow 64 63)).mp (by decide +kernel)
  · exact surrounded "\t" "-1e-400" " " (by unfold Text.AreBlank; decide)
      (by unfold Text.AreBlank; decide)

end Catalogue.Json.Value

import Mathlib
import Catalogue.Proofs.Json.WrittenNumber
import Catalogue.Proofs.Matching.Plain
import Catalogue.Query

/-!
Loose comparison by canonical keys. A number shown as text reads back as the same number, and what
shows a value past the finite doubles reads as no number. The comparison of numbers and the
comparison of texts therefore never meet, and a parameter names exactly the values of its own key.
-/

namespace Catalogue.Json

open Grammar

theorem Grammar.number?_fractional {negative : Bool} {text : Text} {value : ℚ} {double : Double}
    (spelled : Fractional text value) (rounds : RoundsTo negative value double) :
    Text.number? (sign negative ++ text) = double.finite? := by
  cases spelled with
  | fractional isWhole isFraction isPower _ =>
      rw [← List.append_assoc]
      exact (Text.Writes.of_spells
        (PlainDecimal.spells_number negative isWhole isFraction isPower)).number?_eq rounds

theorem writes_ofInt (number : Int) :
    (Text.ofInt number).Writes (number < 0) number.natAbs := by
  have spelled := PlainDecimal.spells_number (number < 0) (whole_ofNat number.natAbs)
    Fraction.absent Power.absent
  have value : magnitude (Text.ofNat number.natAbs) [] 0 = number.natAbs := by
    simp [magnitude, numeral_eq]
  rw [List.append_nil, List.append_nil, ← ofInt_eq, value] at spelled
  exact Text.Writes.of_spells spelled

theorem number?_ofInt (number : Int) :
    (Text.ofInt number).number? = (Double.ofInt number).finite? :=
  (writes_ofInt number).number?_eq (Double.roundsTo_ofInt number)

theorem number?_write (layout : DoubleLayout) (double : FiniteDouble) :
    Text.number? (layout.write (.finite double)) = some double := by
  obtain ⟨value, spelled, nearest⟩ := fractional_magnitude layout double.rank_lt
  rw [write_eq_sign_append, number?_fractional spelled (RoundsTo.finite_iff.mpr ⟨rfl, nearest⟩)]
  rfl

namespace Value

def IsNameable : Value → Prop
  | .integer _ | .double _ | .string _ => True
  | _ => False

def IsPastDoubles : Value → Prop
  | .integer number => RoundsTo (number < 0) number.natAbs (.infinite (number < 0))
  | .double number => number.finite? = none
  | _ => False

@[simp] theorem display_integer (number : Int) : (integer number).display = Text.ofInt number := by
  simp [display, inspect, inspectValue]

@[simp] theorem display_double (number : Double) :
    (double number).display = displayLayout.write number := by
  simp [display, inspect, inspectValue]

@[simp] theorem display_string (text : Text) : (string text).display = text := rfl

theorem number?_display_of_nameable {value : Value} (nameable : value.IsNameable) :
    value.display.number? = value.number? := by
  cases value with
  | integer number => rw [display_integer, number?_ofInt, Value.number?]
  | double number =>
      rw [display_double]
      cases number with
      | finite double => exact number?_write displayLayout double
      | infinite negative => cases negative <;> rfl
      | nan => rfl
  | string text => rw [display_string, Value.number?]
  | null | boolean _ | array _ | object _ => exact nameable.elim

theorem isNameable_of_number? {value : Value} {number : FiniteDouble}
    (reads : value.number? = some number) : value.IsNameable := by
  cases value with
  | integer _ | double _ | string _ => trivial
  | null | boolean _ | array _ | object _ => exact absurd reads nofun

theorem isNameable_of_isNamedBy {value : Value} {parameter : Text}
    (named : value.isNamedBy parameter = true) : value.IsNameable := by
  cases value with
  | integer _ | double _ | string _ => trivial
  | null | boolean _ | array _ | object _ => exact absurd named nofun

theorem isNamedBy_of_numbers {value : Value} {parameter : Text} {left right : FiniteDouble}
    (valueReads : value.number? = some left) (parameterReads : parameter.number? = some right) :
    value.isNamedBy parameter = left.equals right := by
  cases value with
  | null | boolean _ | array _ | object _ => exact absurd valueReads nofun
  | integer _ | double _ | string _ =>
      rw [isNamedBy, valueReads, parameterReads]
      all_goals simp

theorem isNamedBy_eq_display {value : Value} {parameter : Text} (nameable : value.IsNameable)
    (no : value.number? = none ∨ parameter.number? = none) :
    value.isNamedBy parameter = decide (value.display = parameter) := by
  cases value with
  | null | boolean _ | array _ | object _ => exact nameable.elim
  | integer _ | double _ | string _ =>
      rw [isNamedBy]
      · rcases no with no | no
        · rw [no]
        · rw [no]
          cases Value.number? _ <;> rfl
      all_goals simp

theorem isNamedBy_of_not_number {value : Value} {parameter : Text}
    (no : value.number? = none ∨ parameter.number? = none) :
    value.isNamedBy parameter = true ↔ value.IsNameable ∧ value.display = parameter := by
  constructor
  · intro named
    have nameable := isNameable_of_isNamedBy named
    rw [isNamedBy_eq_display nameable no] at named
    exact ⟨nameable, of_decide_eq_true named⟩
  · rintro ⟨nameable, shown⟩
    rw [isNamedBy_eq_display nameable no]
    exact decide_eq_true shown

theorem number?_isSome_of_isNamedBy {value : Value} {parameter : Text}
    (named : value.isNamedBy parameter = true) :
    value.number?.isSome = parameter.number?.isSome := by
  by_cases no : value.number? = none ∨ parameter.number? = none
  · obtain ⟨nameable, rfl⟩ := (isNamedBy_of_not_number no).mp named
    rw [number?_display_of_nameable nameable]
  · rw [not_or] at no
    rw [Option.ne_none_iff_isSome.mp no.1, Option.ne_none_iff_isSome.mp no.2]

end Value

end Catalogue.Json

namespace Catalogue

/-- What texts are compared by: the number that a text reads as, both zeros being one, or else the
text itself. -/
inductive Key where
  | number (quanta : Int)
  | text (text : Text)

def Text.key (text : Text) : Key :=
  match text.number? with
  | some number => .number number.quanta
  | none => .text text

theorem Text.key_of_number {text : Text} {number : FiniteDouble}
    (reads : text.number? = some number) : text.key = .number number.quanta := by
  rw [Text.key, reads]

theorem Text.key_of_not_number {text : Text} (no : text.number? = none) :
    text.key = .text text := by
  rw [Text.key, no]

theorem FiniteDouble.equals_iff_quanta {left right : FiniteDouble} :
    left.equals right = true ↔ left.quanta = right.quanta := by
  rw [equals, decide_eq_true_eq]

theorem FiniteDouble.equals_iff {left right : FiniteDouble} :
    left.equals right = true ↔ left = right ∨ left.rank = 0 ∧ right.rank = 0 := by
  obtain ⟨leftNegative, leftRank, leftBelow⟩ := left
  obtain ⟨rightNegative, rightRank, rightBelow⟩ := right
  have same := quantaOfRank_strictMono.injective.eq_iff (a := leftRank) (b := rightRank)
  have leftZero := quantaOfRank_strictMono.injective.eq_iff (a := leftRank) (b := 0)
  have rightZero := quantaOfRank_strictMono.injective.eq_iff (a := rightRank) (b := 0)
  have zero := quantaOfRank_zero
  rw [equals_iff_quanta]
  cases leftNegative <;> cases rightNegative <;> simp [quanta] <;> omega

theorem Json.Value.isNamedBy_iff_key {value : Json.Value} {parameter : Text} :
    value.isNamedBy parameter = true ↔
      value.IsNameable ∧ value.display.key = parameter.key := by
  cases valueReads : value.number? with
  | none =>
      rw [isNamedBy_of_not_number (Or.inl valueReads)]
      refine and_congr_right fun nameable => ?_
      rw [Text.key_of_not_number ((number?_display_of_nameable nameable).trans valueReads)]
      cases parameterReads : parameter.number? with
      | none => rw [Text.key_of_not_number parameterReads, Key.text.injEq]
      | some right =>
          rw [Text.key_of_number parameterReads]
          refine iff_of_false (fun shown => ?_) nofun
          rw [← shown, number?_display_of_nameable nameable, valueReads] at parameterReads
          exact absurd parameterReads nofun
  | some left =>
      have nameable := isNameable_of_number? valueReads
      have shown := number?_display_of_nameable nameable
      rw [Text.key_of_number (shown.trans valueReads)]
      cases parameterReads : parameter.number? with
      | none =>
          rw [isNamedBy_of_not_number (Or.inr parameterReads),
            Text.key_of_not_number parameterReads]
          refine iff_of_false (fun named => ?_) (fun named => absurd named.2 nofun)
          rw [named.2, parameterReads, valueReads] at shown
          exact absurd shown nofun
      | some right =>
          rw [isNamedBy_of_numbers valueReads parameterReads, FiniteDouble.equals_iff_quanta,
            Text.key_of_number parameterReads, Key.number.injEq]
          exact (and_iff_right nameable).symm

theorem Json.Value.isNamedBy_display {value : Json.Value} (nameable : value.IsNameable) :
    value.isNamedBy value.display = true :=
  isNamedBy_iff_key.mpr ⟨nameable, rfl⟩

theorem Json.Value.isNamedBy_congr {left right : Text} (same : left.key = right.key)
    (value : Json.Value) : value.isNamedBy left = value.isNamedBy right := by
  rw [Bool.eq_iff_iff, isNamedBy_iff_key, isNamedBy_iff_key, same]

theorem Text.isNamedBy_equivalence :
    Equivalence fun left right : Text => (Json.Value.string left).isNamedBy right = true := by
  have byKey (left right : Text) :
      (Json.Value.string left).isNamedBy right = true ↔ left.key = right.key := by
    rw [Json.Value.isNamedBy_iff_key]
    exact and_iff_right trivial
  constructor
  · exact fun text => (byKey text text).mpr rfl
  · intro left right
    rw [byKey, byKey]
    exact Eq.symm
  · intro left middle right
    rw [byKey, byKey, byKey]
    exact Eq.trans

theorem Query.select_congr (document : Document) {left right : Text}
    (same : left.key = right.key) :
    select document (.painting left) = select document (.painting right) ∧
      select document (.gallery left) = select document (.gallery right) ∧
        select document (.artist left) = select document (.artist right) := by
  simp only [select, Json.Value.isNamedBy_congr same, and_self]

theorem Double.ofInt_finite?_eq_none {number : Int} :
    (Double.ofInt number).finite? = none ↔
      RoundsTo (number < 0) number.natAbs (.infinite (number < 0)) := by
  have rounds := Double.roundsTo_ofInt number
  constructor
  · intro past
    obtain ⟨rank, nearest, double⟩ := rounds
    rw [double] at past
    refine ⟨rank, nearest, ?_⟩
    by_cases below : rank < rankLimit
    · rw [Double.ofRank_of_lt below] at past
      exact absurd past nofun
    · exact (Double.ofRank_of_le (Nat.le_of_not_lt below)).symm
  · intro past
    rw [rounds.unique past]
    rfl

theorem Json.Value.isPastDoubles_or_string {value : Json.Value} :
    value.IsNameable ∧ value.number? = none ↔
      (∃ text, value = .string text ∧ text.number? = none) ∨ value.IsPastDoubles := by
  cases value with
  | integer number =>
      rw [IsPastDoubles, ← Double.ofInt_finite?_eq_none, Value.number?]
      simp [IsNameable]
  | double number => simp [IsPastDoubles, IsNameable, Value.number?]
  | string text => simp [IsPastDoubles, IsNameable, Value.number?]
  | null | boolean _ | array _ | object _ => simp [IsPastDoubles, IsNameable]

theorem Json.Value.isNamedBy_of_parameter_not_number {value : Json.Value} {parameter : Text}
    (no : parameter.number? = none) :
    value.isNamedBy parameter = true ↔
      value = .string parameter ∨ value.IsPastDoubles ∧ value.display = parameter := by
  rw [isNamedBy_of_not_number (Or.inr no)]
  constructor
  · rintro ⟨nameable, rfl⟩
    rw [number?_display_of_nameable nameable] at no
    rcases isPastDoubles_or_string.mp ⟨nameable, no⟩ with ⟨text, rfl, _⟩ | past
    · exact Or.inl rfl
    · exact Or.inr ⟨past, rfl⟩
  · rintro (rfl | ⟨past, rfl⟩)
    · exact ⟨trivial, rfl⟩
    · exact ⟨(isPastDoubles_or_string.mpr (Or.inr past)).1, rfl⟩

theorem Json.Value.isNamedBy_of_parameter_number {value : Json.Value} {parameter : Text}
    {number : FiniteDouble} (reads : parameter.number? = some number) :
    value.isNamedBy parameter = true ↔
      ∃ other, value.number? = some other ∧
        (other = number ∨ other.rank = 0 ∧ number.rank = 0) := by
  cases valueReads : value.number? with
  | some other =>
      rw [isNamedBy_of_numbers valueReads reads, FiniteDouble.equals_iff]
      simp only [Option.some.injEq, exists_eq_left']
  | none =>
      refine iff_of_false (fun named => ?_) nofun
      have same := number?_isSome_of_isNamedBy named
      rw [valueReads, reads] at same
      exact absurd same nofun

/-! The comparison as a whole -/

/-- A parameter that reads as a number names the values of that number, any other parameter names
its own text and what is shown as that text past the finite doubles. -/
theorem Json.Value.isNamedBy_canonical :
    (∀ (value : Json.Value) (parameter : Text),
      (value.isNamedBy parameter = true ↔
        value.IsNameable ∧ value.display.key = parameter.key) ∧
      (∀ number, parameter.number? = some number →
        (value.isNamedBy parameter = true ↔ ∃ other, value.number? = some other ∧
          (other = number ∨ other.rank = 0 ∧ number.rank = 0))) ∧
      (parameter.number? = none →
        (value.isNamedBy parameter = true ↔
          value = .string parameter ∨ value.IsPastDoubles ∧ value.display = parameter)) ∧
      (value.isNamedBy parameter = true →
        value.number?.isSome = parameter.number?.isSome)) ∧
    (Equivalence fun left right : Text => (Json.Value.string left).isNamedBy right = true) ∧
    ∀ (document : Document) (left right : Text) (leftNumber rightNumber : FiniteDouble),
      left.number? = some leftNumber → right.number? = some rightNumber →
      (leftNumber = rightNumber ∨ leftNumber.rank = 0 ∧ rightNumber.rank = 0) →
      Query.select document (.painting left) = Query.select document (.painting right) ∧
        Query.select document (.gallery left) = Query.select document (.gallery right) ∧
          Query.select document (.artist left) = Query.select document (.artist right) := by
  refine ⟨fun value parameter => ⟨isNamedBy_iff_key, fun number reads => ?_, fun no => ?_, ?_⟩,
    Text.isNamedBy_equivalence, ?_⟩
  · exact isNamedBy_of_parameter_number reads
  · exact isNamedBy_of_parameter_not_number no
  · exact number?_isSome_of_isNamedBy
  · intro document left right leftNumber rightNumber leftReads rightReads same
    apply Query.select_congr
    rw [Text.key_of_number leftReads, Text.key_of_number rightReads, Key.number.injEq]
    exact FiniteDouble.equals_iff_quanta.mp (FiniteDouble.equals_iff.mpr same)

theorem Json.Value.isNamedBy_canonical_forty :
    (Json.Value.integer 40).isNamedBy "4e1" = true ∧
      (Json.Value.double (.infinite false)).isNamedBy "inf" = true ∧
      Query.select [⟨[("paintingID", .integer 40)]⟩] (.painting "40") =
        Query.select [⟨[("paintingID", .integer 40)]⟩] (.painting "4e1") := by
  obtain ⟨compared, _, selected⟩ := isNamedBy_canonical
  refine ⟨?_, ?_, ?_⟩
  · have named := (compared (.integer 40) "4e1").2.1 ⟨false, 4630826316843712512, by decide⟩
      (by decide +kernel)
    exact named.mpr ⟨_, by decide +kernel, Or.inl rfl⟩
  · have named := (compared (.double (.infinite false)) "inf").2.2.1 (by decide +kernel)
    exact named.mpr (Or.inr ⟨rfl, rfl⟩)
  · have same := selected [⟨[("paintingID", .integer 40)]⟩] "40" "4e1"
      ⟨false, 4630826316843712512, by decide⟩ ⟨false, 4630826316843712512, by decide⟩
      (by decide +kernel) (by decide +kernel) (Or.inl rfl)
    exact same.1

end Catalogue

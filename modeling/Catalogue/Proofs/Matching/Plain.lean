import Mathlib
import Catalogue.Matching
import Catalogue.Proofs.Json.Number

/-!
Plain decimals, which texts are read as numbers by: a sign, digits with at most one point, a power
of ten, and blanks around. The reader accepts these texts only, and finds the number that each of
them writes.
-/

namespace Catalogue

open Json.Grammar

theorem Json.IsNumeral.isBlank {code : CodePoint} (numeral : Json.IsNumeral code) :
    code.isBlank = false := by
  rcases numeral with digit | rfl | rfl | rfl | rfl | rfl
  · rw [CodePoint.isDigit_iff] at digit
    simp [CodePoint.isBlank, blanks]
    omega
  all_goals decide

def Text.AreBlank (text : Text) : Prop := ∀ code ∈ text, code.isBlank = true

namespace Text

variable {before text after : Text}

theorem dropWhile_isBlank_of_forall (solid : ∀ code ∈ text, code.isBlank = false) :
    text.dropWhile CodePoint.isBlank = text := by
  cases text with
  | nil => rfl
  | cons code text => simp [solid code List.mem_cons_self]

theorem trimBlanks_of_forall (solid : ∀ code ∈ text, code.isBlank = false) :
    text.trimBlanks = text := by
  have reversed : ∀ code ∈ text.reverse, code.isBlank = false := by simpa using solid
  rw [trimBlanks, dropWhile_isBlank_of_forall solid, dropWhile_isBlank_of_forall reversed,
    List.reverse_reverse]

theorem AreBlank.dropWhile (blank : AreBlank text) : text.dropWhile CodePoint.isBlank = [] :=
  List.dropWhile_eq_nil_iff.mpr blank

theorem AreBlank.reverse (blank : AreBlank text) : AreBlank text.reverse :=
  fun code member => blank code (List.mem_reverse.mp member)

theorem trimBlanks_append (blankBefore : AreBlank before) (blankAfter : AreBlank after) :
    (before ++ text ++ after).trimBlanks = text.trimBlanks := by
  rw [trimBlanks, trimBlanks, List.append_assoc, List.dropWhile_append_of_pos blankBefore,
    List.dropWhile_append]
  cases rest : text.dropWhile CodePoint.isBlank with
  | nil =>
      rw [List.isEmpty_nil, if_pos rfl, blankAfter.dropWhile]
  | cons code rest =>
      rw [List.isEmpty_cons, if_neg Bool.false_ne_true, List.reverse_append,
        List.dropWhile_append_of_pos blankAfter.reverse]

theorem exists_trimBlanks (text : Text) : ∃ before after, AreBlank before ∧ AreBlank after ∧
    text = before ++ text.trimBlanks ++ after := by
  have leading : AreBlank (text.takeWhile CodePoint.isBlank) :=
    fun code member => List.mem_takeWhile_imp member
  have trailing (rest : Text) : AreBlank (rest.reverse.takeWhile CodePoint.isBlank).reverse :=
    AreBlank.reverse fun code member => List.mem_takeWhile_imp member
  refine ⟨_, _, leading, trailing (text.dropWhile CodePoint.isBlank), ?_⟩
  rw [trimBlanks, List.append_assoc, ← List.reverse_append, List.takeWhile_append_dropWhile,
    List.reverse_reverse, List.takeWhile_append_dropWhile]

end Text

namespace PlainDecimal

inductive Sign : Text → Bool → Prop
  | absent : Sign [] false
  | plus : Sign ['+'] false
  | minus : Sign ['-'] true

inductive Point : Text → Text → Prop
  | absent : Point [] []
  | present {fraction : Text} : Text.AreDigits fraction →
      Point (CodePoint.ofChar '.' :: fraction) fraction

inductive Mantissa : Text → Text → Text → Prop
  | whole {whole point fraction : Text} : whole ≠ [] → Text.AreDigits whole →
      Point point fraction → Mantissa (whole ++ point) whole fraction
  | fraction {fraction : Text} : fraction ≠ [] → Text.AreDigits fraction →
      Mantissa (CodePoint.ofChar '.' :: fraction) [] fraction

inductive Spells : Text → Bool → ℚ → Prop
  | parts {sign mantissa power whole fraction : Text} {negative : Bool} {exponent : Int} :
      Sign sign negative → Mantissa mantissa whole fraction → Power power exponent →
      Spells (sign ++ mantissa ++ power) negative
        (Json.Grammar.magnitude whole fraction exponent)

theorem Mantissa.exists_point {mantissa whole fraction : Text}
    (spelled : Mantissa mantissa whole fraction) : ∃ point, mantissa = whole ++ point ∧
      Text.AreDigits whole ∧ Point point fraction ∧ ¬ (whole = [] ∧ fraction = []) := by
  cases spelled with
  | whole nonempty are point => exact ⟨_, rfl, are, point, fun empty => nonempty empty.1⟩
  | fraction nonempty are =>
      exact ⟨_, rfl, nofun, Point.present are, fun empty => nonempty empty.2⟩

theorem mantissa_of_point {whole point fraction : Text} (are : Text.AreDigits whole)
    (spelled : Point point fraction) (some : ¬ (whole = [] ∧ fraction = [])) :
    Mantissa (whole ++ point) whole fraction := by
  by_cases empty : whole = []
  · subst empty
    cases spelled with
    | absent => exact absurd ⟨rfl, rfl⟩ some
    | present digits => exact Mantissa.fraction (fun none => some ⟨rfl, none⟩) digits
  · exact Mantissa.whole empty are spelled

theorem Mantissa.not_sign {mantissa whole fraction rest : Text}
    (spelled : Mantissa mantissa whole fraction) :
    ∀ code ∈ (mantissa ++ rest).head?, code ≠ '-' ∧ code ≠ '+' := by
  cases spelled with
  | @whole whole point _ nonempty are _ =>
      cases whole with
      | nil => exact absurd rfl nonempty
      | cons first digits =>
          intro code head
          obtain rfl := Option.some.inj head
          have digit := are first List.mem_cons_self
          exact ⟨CodePoint.ne_of_isDigit digit rfl, CodePoint.ne_of_isDigit digit rfl⟩
  | fraction =>
      intro code head
      obtain rfl := Option.some.inj head
      decide

theorem Point.not_digit {point fraction rest : Text} (spelled : Point point fraction)
    (stops : ∀ code ∈ rest.head?, code.isDigit = false) :
    ∀ code ∈ (point ++ rest).head?, code.isDigit = false := by
  cases spelled with
  | absent => exact stops
  | present => simp [CodePoint.isDigit]

theorem takeSign_sign {sign rest : Text} {negative : Bool} (spelled : Sign sign negative)
    (unsigned : ∀ code ∈ rest.head?, code ≠ '-' ∧ code ≠ '+') :
    takeSign (sign ++ rest) = (negative, rest) := by
  cases spelled with
  | absent =>
      cases rest with
      | nil => rfl
      | cons code rest =>
          obtain ⟨notMinus, notPlus⟩ := unsigned code rfl
          rw [List.nil_append, takeSign, if_neg notMinus, if_neg notPlus]
  | plus => rfl
  | minus => rfl

theorem of_takeSign {text rest : Text} {negative : Bool} (taken : takeSign text = (negative, rest)) :
    ∃ sign, text = sign ++ rest ∧ Sign sign negative := by
  cases text with
  | nil =>
      obtain ⟨rfl, rfl⟩ := Prod.mk.inj taken
      exact ⟨[], rfl, Sign.absent⟩
  | cons code text =>
      rw [takeSign] at taken
      split_ifs at taken with minus plus
      · obtain ⟨rfl, rfl⟩ := Prod.mk.inj taken
        exact ⟨['-'], by rw [minus]; rfl, Sign.minus⟩
      · obtain ⟨rfl, rfl⟩ := Prod.mk.inj taken
        exact ⟨['+'], by rw [plus]; rfl, Sign.plus⟩
      · obtain ⟨rfl, rfl⟩ := Prod.mk.inj taken
        exact ⟨[], rfl, Sign.absent⟩

theorem takeFraction_point {point fraction rest : Text} (spelled : Point point fraction)
    (stops : ∀ code ∈ rest.head?, code.isDigit = false ∧ code ≠ '.') :
    takeFraction (point ++ rest) = (fraction, rest) := by
  cases spelled with
  | absent =>
      cases rest with
      | nil => rfl
      | cons code rest => simp [takeFraction, (stops code rfl).2]
  | present are =>
      rw [List.cons_append, takeFraction, if_pos rfl]
      exact Text.span_isDigit are fun code first => (stops code first).1

theorem of_takeFraction {text fraction rest : Text}
    (taken : takeFraction text = (fraction, rest)) :
    ∃ point, text = point ++ rest ∧ Point point fraction := by
  cases text with
  | nil =>
      obtain ⟨rfl, rfl⟩ := Prod.mk.inj taken
      exact ⟨[], rfl, Point.absent⟩
  | cons code text =>
      rw [takeFraction] at taken
      split_ifs at taken with isPoint
      · obtain ⟨rfl, are⟩ := Text.of_span_isDigit taken
        exact ⟨_, by rw [isPoint, List.cons_append], Point.present are⟩
      · obtain ⟨rfl, rfl⟩ := Prod.mk.inj taken
        exact ⟨[], rfl, Point.absent⟩

theorem of_power? {text : Text} {exponent : Int} (read : power? text = some exponent) :
    Power text exponent := by
  cases text with
  | nil =>
      obtain rfl := Option.some.inj read
      exact Power.absent
  | cons mark text =>
      rw [power?] at read
      split_ifs at read with isMark
      cases signed : takeSign text with
      | mk negative digits =>
          obtain ⟨sign, rfl, isSign⟩ := of_takeSign signed
          rw [signed] at read
          dsimp only at read
          by_cases present : digits ≠ [] ∧ digits.all CodePoint.isDigit
          · have are : Text.AreDigits digits := List.all_eq_true.mp present.2
            rw [if_pos present, ← numeral_eq] at read
            obtain rfl := Option.some.inj read
            cases isSign with
            | absent => exact Power.unsigned isMark present.1 are
            | plus => exact Power.positive isMark present.1 are
            | minus => exact Power.negative isMark present.1 are
          · rw [if_neg present] at read
            cases read

theorem read?_parts {sign mantissa power whole fraction : Text} {negative : Bool} {exponent : Int}
    (isSign : Sign sign negative) (isMantissa : Mantissa mantissa whole fraction)
    (isPower : Power power exponent) :
    read? (sign ++ mantissa ++ power) =
      some ⟨negative, Decimal.ofDigits whole fraction exponent⟩ := by
  obtain ⟨point, rfl, are, isPoint, some⟩ := isMantissa.exists_point
  have afterPoint := isPower.stops_append Json.stops_nil
  rw [List.append_nil] at afterPoint
  have afterWhole := isPoint.not_digit fun code first => (afterPoint code first).1
  rw [read?, List.append_assoc, takeSign_sign isSign isMantissa.not_sign, List.append_assoc]
  dsimp only
  rw [Text.span_isDigit are afterWhole]
  dsimp only
  rw [takeFraction_point isPoint afterPoint]
  dsimp only
  rw [if_neg some, isPower.power?]
  rfl

theorem exists_read? {text : Text} {negative : Bool} {magnitude : ℚ}
    (spelled : Spells text negative magnitude) :
    ∃ decimal, read? text = some decimal ∧ decimal.negative = negative ∧
      decimal.magnitude.value = magnitude := by
  cases spelled with
  | parts isSign isMantissa isPower =>
      exact ⟨_, read?_parts isSign isMantissa isPower, rfl, Json.ofDigits_value _ _ _⟩

theorem of_read? {text : Text} {decimal : SignedDecimal} (read : read? text = some decimal) :
    Spells text decimal.negative decimal.magnitude.value := by
  rw [read?] at read
  cases signed : takeSign text with
  | mk negative unsigned =>
      rw [signed] at read
      dsimp only at read
      cases split : unsigned.span CodePoint.isDigit with
      | mk whole afterWhole =>
          rw [split] at read
          dsimp only at read
          cases pointed : takeFraction afterWhole with
          | mk fraction power =>
              rw [pointed] at read
              dsimp only at read
              split_ifs at read with empty
              obtain ⟨exponent, isPower, same⟩ := Option.bind_eq_some_iff.mp read
              obtain rfl := Option.some.inj same
              obtain ⟨sign, rfl, isSign⟩ := of_takeSign signed
              obtain ⟨rfl, are⟩ := Text.of_span_isDigit split
              obtain ⟨point, rfl, isPoint⟩ := of_takeFraction pointed
              have isMantissa := mantissa_of_point are isPoint empty
              have spelled := Spells.parts isSign isMantissa (of_power? isPower)
              rw [Json.ofDigits_value]
              simpa using spelled

theorem Point.of_fraction {fraction digits : Text} (spelled : Fraction fraction digits) :
    Point fraction digits := by
  cases spelled with
  | absent => exact Point.absent
  | present _ are => exact Point.present are

theorem Sign.of_negative (negative : Bool) : Sign (sign negative) negative := by
  cases negative with
  | false => exact Sign.absent
  | true => exact Sign.minus

theorem spells_number (negative : Bool) {whole fraction digits power : Text} {exponent : Int}
    (isWhole : Whole whole) (isFraction : Fraction fraction digits)
    (isPower : Power power exponent) :
    Spells (sign negative ++ (whole ++ fraction) ++ power) negative
      (Json.Grammar.magnitude whole digits exponent) := by
  obtain ⟨first, rest, nonempty, _⟩ := isWhole.exists_cons
  have isMantissa := Mantissa.whole (by simp [nonempty]) isWhole.areDigits
    (Point.of_fraction isFraction)
  exact Spells.parts (Sign.of_negative negative) isMantissa isPower

theorem Sign.isNumeral {sign : Text} {negative : Bool} (spelled : Sign sign negative) :
    ∀ code ∈ sign, Json.IsNumeral code := by
  cases spelled <;> simp [Json.IsNumeral]

theorem Mantissa.isNumeral {mantissa whole fraction : Text}
    (spelled : Mantissa mantissa whole fraction) : ∀ code ∈ mantissa, Json.IsNumeral code := by
  obtain ⟨point, rfl, are, isPoint, _⟩ := spelled.exists_point
  refine List.forall_mem_append.mpr ⟨Json.isNumeral_of_areDigits are, ?_⟩
  cases isPoint with
  | absent => exact nofun
  | present are =>
      exact List.forall_mem_cons.mpr ⟨by simp [Json.IsNumeral], Json.isNumeral_of_areDigits are⟩

theorem Spells.not_blank {text : Text} {negative : Bool} {magnitude : ℚ}
    (spelled : Spells text negative magnitude) : ∀ code ∈ text, code.isBlank = false := by
  cases spelled with
  | parts isSign isMantissa isPower =>
      simp only [List.forall_mem_append]
      exact ⟨⟨fun code member => (isSign.isNumeral code member).isBlank,
        fun code member => (isMantissa.isNumeral code member).isBlank⟩,
        fun code member => (isPower.isNumeral code member).isBlank⟩

theorem Spells.nonneg {text : Text} {negative : Bool} {magnitude : ℚ}
    (spelled : Spells text negative magnitude) : 0 ≤ magnitude := by
  cases spelled with
  | parts =>
      unfold Json.Grammar.magnitude
      positivity

end PlainDecimal

/-! Numbers in texts -/

namespace Text

inductive Writes : Text → Bool → ℚ → Prop
  | surrounded {before text after : Text} {negative : Bool} {magnitude : ℚ} : AreBlank before →
      PlainDecimal.Spells text negative magnitude → AreBlank after →
      Writes (before ++ text ++ after) negative magnitude

variable {text : Text} {negative : Bool} {magnitude : ℚ}

theorem Writes.of_spells (spelled : PlainDecimal.Spells text negative magnitude) :
    Writes text negative magnitude := by
  have none : AreBlank [] := List.forall_mem_nil _
  have writes := Writes.surrounded none spelled none
  rwa [List.nil_append, List.append_nil] at writes

theorem Writes.nonneg (writes : Writes text negative magnitude) : 0 ≤ magnitude := by
  cases writes with
  | surrounded _ spelled _ => exact spelled.nonneg

theorem Writes.exists_read? (writes : Writes text negative magnitude) :
    ∃ decimal, PlainDecimal.read? text.trimBlanks = some decimal ∧
      decimal.negative = negative ∧ decimal.magnitude.value = magnitude := by
  cases writes with
  | surrounded blankBefore spelled blankAfter =>
      rw [trimBlanks_append blankBefore blankAfter, trimBlanks_of_forall spelled.not_blank]
      exact PlainDecimal.exists_read? spelled

theorem Writes.number?_eq {double : Double} (writes : Writes text negative magnitude)
    (rounds : RoundsTo negative magnitude double) : text.number? = double.finite? := by
  obtain ⟨decimal, read, rfl, rfl⟩ := writes.exists_read?
  rw [number?, read, rounds.unique decimal.roundsTo_toDouble]
  rfl

theorem Writes.unique {otherNegative : Bool} {otherMagnitude : ℚ}
    (writes : Writes text negative magnitude)
    (otherWrites : Writes text otherNegative otherMagnitude) :
    negative = otherNegative ∧ magnitude = otherMagnitude := by
  obtain ⟨decimal, read, rfl, rfl⟩ := writes.exists_read?
  obtain ⟨other, otherRead, rfl, rfl⟩ := otherWrites.exists_read?
  rw [Option.some.inj (read.symm.trans otherRead)]
  exact ⟨rfl, rfl⟩

theorem exists_writes {value : FiniteDouble} (reads : text.number? = some value) :
    ∃ negative magnitude, Writes text negative magnitude := by
  obtain ⟨before, after, blankBefore, blankAfter, whole⟩ := exists_trimBlanks text
  obtain ⟨decimal, read, _⟩ := Option.bind_eq_some_iff.mp reads
  rw [whole]
  exact ⟨_, _, Writes.surrounded blankBefore (PlainDecimal.of_read? read) blankAfter⟩

theorem number?_append {before after : Text} (blankBefore : AreBlank before)
    (blankAfter : AreBlank after) : (before ++ text ++ after).number? = text.number? := by
  rw [number?, number?, trimBlanks_append blankBefore blankAfter]

end Text

end Catalogue

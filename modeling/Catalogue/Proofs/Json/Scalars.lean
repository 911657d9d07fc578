import Mathlib
import Catalogue.Proofs.Json.Number
import Catalogue.Proofs.Json.Strings

/-!
Reading blanks and the values that hold no others. The reader of such values takes what the grammar
has, if what follows is the end, a blank, a comma or a closing bracket, and nothing else.
-/

namespace Catalogue.Json

open Grammar

theorem isBlank_iff {code : CodePoint} :
    isBlank code = true ↔
      code.val = 0x20 ∨ code.val = 0x9 ∨ code.val = 0xA ∨ code.val = 0xD := by
  simp [isBlank, or_assoc]

theorem areBlanks_iff {text : Text} : AreBlanks text ↔ ∀ code ∈ text, isBlank code = true := by
  simp only [AreBlanks, isBlank_iff]

theorem Grammar.areBlanks_nil : AreBlanks [] := by
  simp [AreBlanks]

theorem Grammar.AreBlanks.append {left right : Text} (leftBlanks : AreBlanks left)
    (rightBlanks : AreBlanks right) : AreBlanks (left ++ right) := by
  intro code member
  rcases List.mem_append.mp member with inLeft | inRight
  · exact leftBlanks code inLeft
  · exact rightBlanks code inRight

theorem skipBlanks_append {blanks text : Text} (are : AreBlanks blanks)
    (stops : ∀ code ∈ text.head?, isBlank code = false) : skipBlanks (blanks ++ text) = text := by
  rw [skipBlanks, List.dropWhile_append_of_pos (areBlanks_iff.mp are)]
  cases text with
  | nil => rfl
  | cons code text => simp [stops code rfl]

theorem exists_blanks (text : Text) :
    ∃ blanks, AreBlanks blanks ∧ text = blanks ++ skipBlanks text :=
  ⟨text.takeWhile isBlank, areBlanks_iff.mpr fun _ member => List.mem_takeWhile_imp member,
    List.takeWhile_append_dropWhile.symm⟩

def Ends (text : Text) : Prop :=
  ∀ code ∈ text.head?, isBlank code = true ∨ code = ',' ∨ code = ']' ∨ code = '}'

theorem Ends.stops {text : Text} (ends : Ends text) : Stops text := by
  intro code first
  rcases ends code first with blank | rfl | rfl | rfl
  · rw [isBlank_iff] at blank
    refine ⟨Bool.eq_false_iff.mpr fun digit => ?_, ?_, ?_, ?_⟩
    · rw [CodePoint.isDigit_iff] at digit
      omega
    · rintro rfl
      exact absurd blank (by decide)
    · rintro rfl
      exact absurd blank (by decide)
    · rintro rfl
      exact absurd blank (by decide)
  · exact ⟨by decide, by decide, by decide, by decide⟩
  · exact ⟨by decide, by decide, by decide, by decide⟩
  · exact ⟨by decide, by decide, by decide, by decide⟩

theorem ends_nil : Ends [] := by
  simp [Ends]

theorem ends_cons {code : CodePoint} {text : Text}
    (delimits : code = ',' ∨ code = ']' ∨ code = '}') : Ends (code :: text) := by
  intro first same
  obtain rfl : code = first := by simpa using same
  exact Or.inr delimits

theorem Ends.append {blanks text : Text} (ends : Ends text) (are : AreBlanks blanks) :
    Ends (blanks ++ text) := by
  cases blanks with
  | nil => exact ends
  | cons code blanks =>
      intro first same
      obtain rfl : code = first := by simpa using same
      exact Or.inl (isBlank_iff.mpr (are code List.mem_cons_self))

theorem after?_append (beginning rest : Text) :
    (beginning ++ rest).after? beginning = some rest := by
  induction beginning with
  | nil => cases rest <;> rfl
  | cons code beginning ih => rwa [List.cons_append, Text.after?, if_pos rfl]

theorem of_after? : ∀ {beginning text rest : Text}, text.after? beginning = some rest →
    text = beginning ++ rest := by
  intro beginning
  induction beginning with
  | nil =>
      intro text rest taken
      rw [Text.after?] at taken
      exact Option.some.inj taken
  | cons expected beginning ih =>
      intro text rest taken
      cases text with
      | nil => exact absurd taken nofun
      | cons code text =>
          rw [Text.after?] at taken
          split_ifs at taken with same
          rw [same, ih taken, List.cons_append]

theorem of_readName? {names : List (Text × Value)} {text name rest : Text} {value : Value}
    (taken : readName? names text = some (name, value, rest)) :
    (name, value) ∈ names ∧ text = name ++ rest := by
  obtain ⟨⟨same, found⟩, member, reads⟩ := List.exists_of_findSome?_eq_some taken
  obtain ⟨after, begins, triple⟩ := Option.map_eq_some_iff.mp reads
  simp only [Prod.mk.injEq] at triple
  obtain ⟨rfl, rfl, rfl⟩ := triple
  exact ⟨member, of_after? begins⟩

theorem readName?_number (negative : Bool) {whole : Text} (spelled : Whole whole) (rest : Text) :
    readName? names (sign negative ++ (whole ++ rest)) = none ∧
      readName? constants (sign negative ++ (whole ++ rest)) = none := by
  obtain ⟨first, digits, rfl, digit⟩ := spelled.exists_cons
  have n : first ≠ 'n' := CodePoint.ne_of_isDigit digit rfl
  have t : first ≠ 't' := CodePoint.ne_of_isDigit digit rfl
  have f : first ≠ 'f' := CodePoint.ne_of_isDigit digit rfl
  have N : first ≠ 'N' := CodePoint.ne_of_isDigit digit rfl
  have I : first ≠ 'I' := CodePoint.ne_of_isDigit digit rfl
  have minus : first ≠ '-' := CodePoint.ne_of_isDigit digit rfl
  cases negative with
  | false =>
      simp [readName?, names, constants, Text.after?, Text.ofString, sign, n, t, f, N, I, minus]
  | true =>
      have n := show CodePoint.ofChar '-' ≠ 'n' by decide
      have t := show CodePoint.ofChar '-' ≠ 't' by decide
      have f := show CodePoint.ofChar '-' ≠ 'f' by decide
      have N := show CodePoint.ofChar '-' ≠ 'N' by decide
      have negative := show CodePoint.ofChar '-' ≠ 'I' by decide
      simp [readName?, names, constants, Text.after?, Text.ofString, sign, n, t, f, N, negative, I]

/-! Values that hold no others -/

theorem NumberToken.isInteger_iff {negative : Bool} {whole fraction power : Text} :
    NumberToken.isInteger ⟨negative, whole, fraction, power⟩ = true ↔
      fraction = [] ∧ power = [] := by
  simp [NumberToken.isInteger]

theorem NumberToken.value_double {policy : Policy} {token : NumberToken} {value : Value}
    (notInteger : ¬ token.isInteger = true) :
    token.value policy = .ok value ↔
      value = .double token.toDouble ∧
        (policy = .strict → token.toDouble.finite?.isSome = true) := by
  unfold NumberToken.value
  rw [if_neg notInteger]
  cases token.toDouble <;> cases policy <;> simp [Double.finite?, refuse, eq_comm]

theorem NumberToken.value_integer {policy : Policy} {token : NumberToken} {value : Value}
    (isInteger : token.isInteger = true) :
    token.value policy = .ok value ↔
      value = .integer token.toInt ∧ token.whole.length ≤ digitLimit := by
  unfold NumberToken.value
  rw [if_pos isInteger]
  split_ifs with many
  · exact iff_of_false nofun fun both => absurd both.2 (Nat.not_le.mpr many)
  · rw [Except.ok.injEq, eq_comm]
    exact (and_iff_left (Nat.le_of_not_lt many)).symm

theorem NumberToken.of_value_error {policy : Policy} {token : NumberToken} {halt : Halt}
    (failed : token.value policy = .error halt) :
    (token.isInteger = true ∧ digitLimit < token.whole.length ∧
      halt = .refusal (.tooManyDigits token.whole.length)) ∨
    (policy = .strict ∧ token.isInteger = false ∧ token.toDouble.finite? = none ∧
      halt = .refusal (.outOfRange token.spelling)) := by
  rw [NumberToken.value.eq_def] at failed
  by_cases isInteger : token.isInteger = true
  · rw [if_pos isInteger] at failed
    split_ifs at failed with many
    exact Or.inl ⟨isInteger, many, (Except.error.inj failed).symm⟩
  · rw [if_neg isInteger] at failed
    cases double : token.toDouble with
    | finite number =>
        rw [double] at failed
        cases failed
    | infinite | nan =>
        rw [double] at failed
        cases policy with
        | strict => exact Or.inr ⟨rfl, Bool.eq_false_iff.mpr isInteger, rfl,
            (Except.error.inj failed).symm⟩
        | lenient => cases failed

theorem NumberToken.value_sound {policy : Policy} {negative : Bool} {whole fraction power : Text}
    {value : Value} (isWhole : Whole whole) {digits : Text} (isFraction : Fraction fraction digits)
    {exponent : Int} (isPower : Power power exponent)
    (reads : NumberToken.value policy ⟨negative, whole, fraction, power⟩ = .ok value) :
    Scalar policy (sign negative ++ whole ++ fraction ++ power) value := by
  by_cases isInteger : NumberToken.isInteger ⟨negative, whole, fraction, power⟩ = true
  · obtain ⟨rfl, few⟩ := (NumberToken.value_integer isInteger).mp reads
    obtain ⟨rfl, rfl⟩ := NumberToken.isInteger_iff.mp isInteger
    rw [List.append_nil, List.append_nil]
    rw [NumberToken.toInt, ← numeral_eq]
    exact Scalar.integer isWhole few
  · obtain ⟨rfl, finite⟩ := (NumberToken.value_double isInteger).mp reads
    rw [NumberToken.isInteger_iff, not_and_or] at isInteger
    rw [List.append_assoc, List.append_assoc, ← List.append_assoc whole]
    exact Scalar.double (Fractional.fractional isWhole isFraction isPower isInteger)
      (NumberToken.roundsTo_toDouble isFraction isPower) finite

theorem of_readScalar {policy : Policy} {text rest : Text} {value : Value}
    (taken : readScalar policy text = .ok (value, rest)) :
    ∃ consumed, text = consumed ++ rest ∧ Scalar policy consumed value := by
  rw [readScalar] at taken
  split at taken
  · rename_i name found unread named
    obtain ⟨rfl, rfl⟩ := Prod.mk.inj (Except.ok.inj taken)
    obtain ⟨member, shape⟩ := of_readName? named
    refine ⟨name, shape, ?_⟩
    simp only [names, List.mem_cons, List.not_mem_nil, or_false, Prod.mk.injEq] at member
    rcases member with ⟨rfl, rfl⟩ | ⟨rfl, rfl⟩ | ⟨rfl, rfl⟩
    · exact Scalar.null
    · exact Scalar.true
    · exact Scalar.false
  · rename_i name found unread _ named
    cases policy with
    | strict => exact absurd taken nofun
    | lenient =>
        obtain ⟨rfl, rfl⟩ := Prod.mk.inj (Except.ok.inj taken)
        obtain ⟨member, shape⟩ := of_readName? named
        exact ⟨name, shape, Scalar.constant rfl member⟩
  · split at taken
    · exact absurd taken nofun
    · rename_i token unread read
      obtain ⟨shape, isWhole, ⟨digits, isFraction⟩, exponent, isPower⟩ := NumberToken.of_read? read
      cases reads : token.value policy with
      | error halt =>
          rw [reads] at taken
          exact absurd taken nofun
      | ok number =>
          rw [reads] at taken
          obtain ⟨rfl, rfl⟩ := Prod.mk.inj (Except.ok.inj taken)
          exact ⟨_, shape, NumberToken.value_sound isWhole isFraction isPower reads⟩

theorem of_readScalar_error {policy : Policy} {text : Text} {halt : Halt}
    (failed : readScalar policy text = .error halt) :
    halt = .fault .expectedValue text ∨
      (policy = .strict ∧ ∃ name value rest, (name, value) ∈ constants ∧ text = name ++ rest ∧
        halt = .refusal (.constant name)) ∨
      ∃ token rest, NumberToken.read? text = some (token, rest) ∧
        token.value policy = .error halt := by
  rw [readScalar] at failed
  split at failed
  · cases failed
  · rename_i name value rest _ named
    cases policy with
    | strict =>
        obtain ⟨member, shape⟩ := of_readName? named
        exact Or.inr (Or.inl ⟨rfl, name, value, rest, member, shape,
          (Except.error.inj failed).symm⟩)
    | lenient => cases failed
  · split at failed
    · exact Or.inl (Except.error.inj failed).symm
    · rename_i token rest read
      cases result : token.value policy with
      | ok value =>
          rw [result] at failed
          cases failed
      | error found =>
          rw [result] at failed
          obtain rfl := Except.error.inj failed
          exact Or.inr (Or.inr ⟨token, rest, read, result⟩)

theorem readScalar_number {policy : Policy} {negative : Bool}
    {whole fraction digits power rest : Text} {exponent : Int} {value : Value}
    (isWhole : Whole whole) (isFraction : Fraction fraction digits)
    (isPower : Power power exponent) (stops : Stops rest)
    (reads : NumberToken.value policy ⟨negative, whole, fraction, power⟩ = .ok value) :
    readScalar policy (sign negative ++ whole ++ fraction ++ power ++ rest) =
      .ok (value, rest) := by
  have token := NumberToken.read?_spelled negative isWhole isFraction isPower stops
  simp only [List.append_assoc] at token ⊢
  have unnamed := readName?_number negative isWhole (fraction ++ (power ++ rest))
  rw [readScalar, unnamed.1, unnamed.2, token]
  dsimp only
  rw [reads]
  rfl

theorem readName?_here (name : Text) (value : Value) (others : List (Text × Value)) (rest : Text) :
    readName? ((name, value) :: others) (name ++ rest) = some (name, value, rest) := by
  simp [readName?, after?_append]

theorem readName?_skip {entry : Text × Value} {text : Text} (others : List (Text × Value))
    (present : entry.1 ≠ []) (different : entry.1.head? ≠ text.head?) :
    readName? (entry :: others) text = readName? others text := by
  obtain ⟨name, value⟩ := entry
  obtain ⟨first, name, rfl⟩ := List.exists_cons_of_ne_nil present
  cases text with
  | nil => rfl
  | cons code text =>
      have differs : code ≠ first := by
        rintro rfl
        exact different rfl
      simp [readName?, Text.after?, differs]

theorem readScalar_name {policy : Policy} {text : Text} {name rest : Text} {value : Value}
    (named : readName? names text = some (name, value, rest)) :
    readScalar policy text = .ok (value, rest) := by
  rw [readScalar, named]

theorem readName?_constant {name : Text} {value : Value} (member : (name, value) ∈ constants)
    (rest : Text) : readName? names (name ++ rest) = none ∧
      readName? constants (name ++ rest) = some (name, value, rest) := by
  simp only [constants, List.mem_cons, List.not_mem_nil, or_false, Prod.mk.injEq] at member
  rcases member with ⟨rfl, rfl⟩ | ⟨rfl, rfl⟩ | ⟨rfl, rfl⟩
  · refine ⟨by simp [readName?, names, Text.after?, Text.ofString], ?_⟩
    exact readName?_here _ _ _ _
  · refine ⟨by simp [readName?, names, Text.after?, Text.ofString], ?_⟩
    rw [constants, readName?_skip _ (by simp [Text.ofString]) (by simp [Text.ofString])]
    exact readName?_here _ _ _ _
  · refine ⟨by simp [readName?, names, Text.after?, Text.ofString], ?_⟩
    rw [constants, readName?_skip _ (by simp [Text.ofString]) (by simp [Text.ofString]),
      readName?_skip _ (by simp [Text.ofString]) (by simp [Text.ofString])]
    exact readName?_here _ _ _ _

theorem readScalar_constant {name : Text} {value : Value} (member : (name, value) ∈ constants)
    (rest : Text) : readScalar .lenient (name ++ rest) = .ok (value, rest) := by
  obtain ⟨unnamed, named⟩ := readName?_constant member rest
  rw [readScalar, unnamed, named]

theorem readScalar_scalar {policy : Policy} {text rest : Text} {value : Value}
    (spelled : Scalar policy text value) (stops : Stops rest) :
    readScalar policy (text ++ rest) = .ok (value, rest) := by
  cases spelled with
  | null => exact readScalar_name (readName?_here _ _ _ _)
  | true =>
      apply readScalar_name
      rw [names, readName?_skip _ (by simp [Text.ofString]) (by simp [Text.ofString])]
      exact readName?_here _ _ _ _
  | false =>
      apply readScalar_name
      rw [names, readName?_skip _ (by simp [Text.ofString]) (by simp [Text.ofString]),
        readName?_skip _ (by simp [Text.ofString]) (by simp [Text.ofString])]
      exact readName?_here _ _ _ _
  | constant lenient member =>
      subst lenient
      exact readScalar_constant member rest
  | @integer negative whole isWhole few =>
      have reads : NumberToken.value policy ⟨negative, whole, [], []⟩ = .ok _ :=
        (NumberToken.value_integer (by simp [NumberToken.isInteger_iff])).mpr ⟨rfl, few⟩
      rw [NumberToken.toInt, ← numeral_eq] at reads
      have taken := readScalar_number isWhole Fraction.absent Power.absent stops reads
      rwa [List.append_nil, List.append_nil] at taken
  | @double negative _ _ double spelled rounds finite =>
      cases spelled with
      | @fractional whole fraction digits power exponent isWhole isFraction isPower isDouble =>
          have notInteger :
              ¬ NumberToken.isInteger ⟨negative, whole, fraction, power⟩ = true := by
            rwa [NumberToken.isInteger_iff, not_and_or]
          have value := rounds.unique (NumberToken.roundsTo_toDouble isFraction isPower)
          rw [value] at finite ⊢
          have reads := (NumberToken.value_double notInteger).mpr ⟨rfl, finite⟩
          have taken := readScalar_number isWhole isFraction isPower stops reads
          simpa only [List.append_assoc] using taken

def brackets : List CodePoint := [CodePoint.quotationMark, '[', ']', '{', '}']

def OpensScalar (code : CodePoint) : Prop := isBlank code = false ∧ code ∉ brackets

theorem opensScalar_of_isDigit {code : CodePoint} (digit : code.isDigit = true) :
    OpensScalar code := by
  refine ⟨Bool.eq_false_iff.mpr fun blank => ?_, fun member => ?_⟩
  · rw [isBlank_iff] at blank
    rw [CodePoint.isDigit_iff] at digit
    omega
  · simp only [brackets, List.mem_cons, List.not_mem_nil, or_false] at member
    rcases member with rfl | rfl | rfl | rfl | rfl
    all_goals exact absurd digit (by decide)

theorem sign_whole_begins (negative : Bool) {whole : Text} (spelled : Whole whole) (rest : Text) :
    ∃ first others, sign negative ++ (whole ++ rest) = first :: others ∧ OpensScalar first := by
  obtain ⟨first, digits, rfl, digit⟩ := spelled.exists_cons
  cases negative with
  | false => exact ⟨first, _, rfl, opensScalar_of_isDigit digit⟩
  | true => exact ⟨'-', _, rfl, by decide, by decide⟩

theorem NumberToken.begins_of_read? {text rest : Text} {token : NumberToken}
    (read : NumberToken.read? text = some (token, rest)) :
    ∃ first others, text = first :: others ∧ OpensScalar first := by
  obtain ⟨shape, isWhole, _⟩ := NumberToken.of_read? read
  rw [List.append_assoc, List.append_assoc, List.append_assoc] at shape
  rw [shape]
  exact sign_whole_begins _ isWhole _

theorem readScalar_of_read? {policy : Policy} {text rest : Text} {token : NumberToken}
    (read : NumberToken.read? text = some (token, rest)) :
    readScalar policy text = (token.value policy).map fun value => (value, rest) := by
  obtain ⟨shape, isWhole, _⟩ := NumberToken.of_read? read
  have unnamed := readName?_number token.negative isWhole (token.fraction ++ (token.power ++ rest))
  rw [List.append_assoc, List.append_assoc, List.append_assoc] at shape
  rw [← shape] at unnamed
  rw [readScalar, unnamed.1, unnamed.2, read]

theorem Grammar.Scalar.begins {policy : Policy} {text : Text} {value : Value}
    (spelled : Scalar policy text value) :
    ∃ first others, text = first :: others ∧ OpensScalar first := by
  cases spelled with
  | null => exact ⟨'n', Text.ofString "ull", by simp [Text.ofString], by decide, by decide⟩
  | true => exact ⟨'t', Text.ofString "rue", by simp [Text.ofString], by decide, by decide⟩
  | false => exact ⟨'f', Text.ofString "alse", by simp [Text.ofString], by decide, by decide⟩
  | @integer negative whole isWhole _ =>
      have begins := sign_whole_begins negative isWhole []
      rwa [List.append_nil] at begins
  | @double negative _ _ _ spelled _ _ =>
      cases spelled with
      | @fractional whole fraction _ power _ isWhole _ _ _ =>
          rw [List.append_assoc]
          exact sign_whole_begins negative isWhole (fraction ++ power)
  | constant _ member =>
      simp only [constants, List.mem_cons, List.not_mem_nil, or_false, Prod.mk.injEq] at member
      rcases member with ⟨rfl, _⟩ | ⟨rfl, _⟩ | ⟨rfl, _⟩
      · exact ⟨'N', Text.ofString "aN", by simp [Text.ofString], by decide, by decide⟩
      · exact ⟨'I', Text.ofString "nfinity", by simp [Text.ofString], by decide, by decide⟩
      · exact ⟨'-', Text.ofString "Infinity", by simp [Text.ofString], by decide, by decide⟩

end Catalogue.Json

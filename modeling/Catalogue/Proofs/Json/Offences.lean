import Mathlib
import Catalogue.Proofs.Json.Faults
import Catalogue.Proofs.Json.Lockstep

/-!
Tokens that only a lenient reader admits. Where a lenient reader comes to one, a strict reader
refuses it, unless one stands before it: all that a lenient reader takes before the first of them is
what a strict reader takes too.
-/

namespace Catalogue.Json

open Grammar

/-- A token that a strict reader refuses stands at the front of a text: the name of a double that is
not finite, or a number with a fraction or a power of ten that is past the greatest double. -/
inductive Offends : Text → Refusal → Prop
  | constant {name rest : Text} {value : Value} : (name, value) ∈ constants →
      Offends (name ++ rest) (.constant name)
  | number {token : NumberToken} {text rest : Text} :
      NumberToken.read? text = some (token, rest) → token.isInteger = false →
      token.toDouble.finite? = none → Offends text (.outOfRange token.spelling)

/-- A lenient reader comes to a token that a strict one refuses, after so much of a text. -/
inductive Reaches : Text → Text → Refusal → Prop
  | after {blanks inside rest : Text} {cause : Refusal} : AreBlanks blanks →
      Opens .lenient inside → Offends rest cause →
      Reaches (blanks ++ inside ++ rest) (blanks ++ inside) cause

def ReachesFirst (text before : Text) (cause : Refusal) : Prop :=
  Reaches text before cause ∧
    ∀ other cause', Reaches text other cause' → before.length ≤ other.length

/-- Such a token stands in the text of a value, whatever follows the value. -/
def Hides (text : Text) : Prop :=
  ∃ outer tail cause, text = outer ++ tail ∧ Opens .lenient outer ∧
    ∀ rest, Ends rest → Offends (tail ++ rest) cause

variable {text rest : Text} {cause : Refusal} {value : Value} {policy : Policy}

theorem Offends.begins (offends : Offends text cause) :
    ∃ first rest, text = first :: rest ∧ OpensScalar first := by
  cases offends with
  | @constant name rest value member =>
      obtain ⟨first, others, shape, opens⟩ := (Scalar.constant rfl member).begins
      exact ⟨first, others ++ rest, by rw [shape, List.cons_append], opens⟩
  | number read _ _ => exact NumberToken.begins_of_read? read

theorem NumberToken.value_strict {token : NumberToken} (notInteger : ¬ token.isInteger = true)
    (infinite : token.toDouble.finite? = none) :
    token.value .strict = refuse (.outOfRange token.spelling) := by
  unfold NumberToken.value
  rw [if_neg notInteger]
  revert infinite
  cases token.toDouble with
  | finite number => exact fun infinite => absurd infinite nofun
  | infinite | nan => exact fun _ => rfl

theorem Offends.readScalar (offends : Offends text cause) :
    readScalar .strict text = .error (.refusal cause) := by
  cases offends with
  | @constant name rest value member =>
      obtain ⟨unnamed, named⟩ := readName?_constant member rest
      rw [Json.readScalar, unnamed, named]
      rfl
  | @number token _ rest read notInteger infinite =>
      rw [readScalar_of_read? read,
        NumberToken.value_strict (Bool.eq_false_iff.mp notInteger) infinite]
      rfl

theorem of_readScalar_refusal (failed : readScalar .strict text = .error (.refusal cause)) :
    Offends text cause ∨ ∃ count, cause = .tooManyDigits count := by
  rcases of_readScalar_error failed with same | ⟨_, _, _, _, member, rfl, same⟩ |
    ⟨token, rest, read, refused⟩
  · cases same
  · obtain rfl := Halt.refusal.inj same
    exact Or.inl (Offends.constant member)
  · rcases NumberToken.of_value_error refused with ⟨_, _, same⟩ | ⟨_, notInteger, infinite, same⟩
    · exact Or.inr ⟨_, Halt.refusal.inj same⟩
    · obtain rfl := Halt.refusal.inj same
      exact Or.inl (Offends.number read notInteger infinite)

theorem readValueWith_opensScalar {limit : Nat} {nested : Reader Value} {first : CodePoint}
    (opens : OpensScalar first) :
    readValueWith policy limit nested (first :: rest) = readScalar policy (first :: rest) := by
  have outside := opens.2
  simp only [brackets, List.mem_cons, List.not_mem_nil, or_false, not_or] at outside
  rw [readValueWith, if_neg outside.1, if_neg outside.2.1, if_neg outside.2.2.2.1]

theorem Grammar.Scalar.strict_or_offends (spelled : Scalar .lenient text value) :
    Scalar .strict text value ∨ ∃ cause, ∀ rest, Ends rest → Offends (text ++ rest) cause := by
  cases spelled with
  | null => exact Or.inl Scalar.null
  | true => exact Or.inl Scalar.true
  | false => exact Or.inl Scalar.false
  | integer isWhole few => exact Or.inl (Scalar.integer isWhole few)
  | constant _ member => exact Or.inr ⟨_, fun _ _ => Offends.constant member⟩
  | @double negative _ _ double spelled rounds _ =>
      by_cases finite : double.finite?.isSome
      · exact Or.inl (Scalar.double spelled rounds fun _ => finite)
      · right
        cases spelled with
        | @fractional whole fraction digits power exponent isWhole isFraction isPower isDouble =>
            have same := rounds.unique (NumberToken.roundsTo_toDouble isFraction isPower)
            let token : NumberToken := ⟨negative, whole, fraction, power⟩
            have notInteger : token.isInteger = Bool.false := by
              rwa [← Bool.not_eq_true, NumberToken.isInteger_iff, not_and_or]
            have infinite : token.toDouble.finite? = none := by
              rw [← same]
              simpa using finite
            refine ⟨.outOfRange token.spelling, fun rest ends => ?_⟩
            have read := NumberToken.read?_spelled negative isWhole isFraction isPower ends.stops
            simp only [List.append_assoc] at read ⊢
            exact Offends.number read notInteger infinite

theorem Ends.append_ends {later : Text} (ends : Ends later) (more : Ends rest) :
    Ends (later ++ rest) := by
  cases later with
  | nil => exact more
  | cons code later => exact fun first same => ends first same

theorem Hides.append {later : Text} (hides : Hides text) (ends : Ends later) :
    Hides (text ++ later) := by
  obtain ⟨outer, tail, cause, rfl, opens, offends⟩ := hides
  refine ⟨outer, tail ++ later, cause, List.append_assoc _ _ _, opens, fun rest more => ?_⟩
  rw [List.append_assoc]
  exact offends _ (ends.append_ends more)

section

variable {α : Type} {first second : Text → α → Prop} {hidden : Text → Prop}

theorem Grammar.Leading.each_or {parts : Text} (leading : Leading first parts)
    (each : ∀ {text item}, first text item → second text item ∨ hidden text) :
    Leading second parts ∨ ∃ before part later, parts = before ++ (part ++ CodePoint.ofChar ',' ::
      later) ∧ Leading first before ∧ hidden part := by
  induction leading with
  | none => exact Or.inl Leading.none
  | @more text rest item one _ ih =>
      rcases each one with same | here
      · rcases ih with others | ⟨before, part, later, rfl, leading, here⟩
        · exact Or.inl (Leading.more same others)
        · refine Or.inr ⟨text ++ CodePoint.ofChar ',' :: before, part, later, ?_,
            Leading.more one leading, here⟩
          rw [List.append_assoc, List.cons_append]
      · exact Or.inr ⟨[], text, rest, rfl, Leading.none, here⟩

theorem Grammar.Separated.each_or {items : List α} (spelled : Separated first text items)
    (each : ∀ {text item}, first text item → second text item ∨ hidden text) :
    Separated second text items ∨ ∃ before part later, text = before ++ (part ++ later) ∧
      Leading first before ∧ hidden part ∧ Ends later := by
  induction spelled with
  | last one =>
      rcases each one with same | here
      · exact Or.inl (Separated.last same)
      · exact Or.inr ⟨[], _, [], (List.append_nil _).symm, Leading.none, here, ends_nil⟩
  | @more text rest item items one _ ih =>
      rcases each one with same | here
      · rcases ih with others | ⟨before, part, later, rfl, leading, here⟩
        · exact Or.inl (Separated.more same others)
        · refine Or.inr ⟨text ++ CodePoint.ofChar ',' :: before, part, later, ?_,
            Leading.more one leading, here⟩
          rw [List.append_assoc, List.cons_append]
      · exact Or.inr ⟨[], text, _, rfl, Leading.none, here, ends_cons (Or.inl rfl)⟩

end

def HidesPadded (text : Text) : Prop :=
  ∃ blanks inner, text = blanks ++ inner ∧ AreBlanks blanks ∧ Hides inner

def HidesMember (text : Text) : Prop :=
  ∃ key name inner, text = key ++ CodePoint.ofChar ':' :: inner ∧ Padded Quoted key name ∧
    HidesPadded inner

section

variable {first second : Text → Value → Prop}

theorem Grammar.Padded.strict_or_hides (spelled : Padded first text value)
    (each : ∀ {text value}, first text value → second text value ∨ Hides text) :
    Padded second text value ∨ HidesPadded text := by
  cases spelled with
  | @padded before inside after _ areBefore one areAfter =>
      rcases each one with same | hides
      · exact Or.inl (Padded.padded areBefore same areAfter)
      · have ends := ends_nil.append areAfter
        rw [List.append_nil] at ends
        exact Or.inr ⟨before, inside ++ after, List.append_assoc _ _ _, areBefore,
          hides.append ends⟩

theorem Grammar.Member.strict_or_hides {member : Text × Value}
    (spelled : Member first text member)
    (each : ∀ {text value}, first text value → second text value ∨ Hides text) :
    Member second text member ∨ HidesMember text := by
  cases spelled with
  | @member key _ name _ named one =>
      rcases one.strict_or_hides each with same | hides
      · exact Or.inl (Member.member named same)
      · exact Or.inr ⟨key, name, _, rfl, named, hides⟩

end

section

variable {denotes : Text → Value → Prop} {front before part : Text}
  (lenient : ∀ {text value}, denotes text value → Derives .lenient text value)

include lenient

theorem Hides.enters (enters : Enters denotes front) (hides : Hides text) :
    Hides (front ++ text) := by
  obtain ⟨outer, tail, cause, rfl, opens, offends⟩ := hides
  have entered : Enters (Derives .lenient) front :=
    enters.imp descends_true (fun _ => lenient) fun _ => trivial
  exact ⟨front ++ outer, tail, cause, (List.append_assoc _ _ _).symm, Opens.inside entered opens,
    offends⟩

theorem HidesPadded.item (leading : Leading (Padded denotes) before) (hides : HidesPadded part) :
    Hides (CodePoint.ofChar '[' :: (before ++ part)) := by
  obtain ⟨blanks, inner, rfl, are, hides⟩ := hides
  have hidden := hides.enters lenient (Enters.item leading are)
  rwa [List.cons_append, List.append_assoc] at hidden

theorem HidesMember.member (leading : Leading (Member denotes) before)
    (hides : HidesMember part) : Hides (CodePoint.ofChar '{' :: (before ++ part)) := by
  obtain ⟨key, name, _, rfl, named, blanks, inner, rfl, are, hides⟩ := hides
  have hidden := hides.enters lenient (Enters.member leading named are)
  simpa only [List.cons_append, List.append_assoc] using hidden

theorem Grammar.Rule.strict_or_hides {denotes' : Text → Value → Prop}
    (each : ∀ {text value}, denotes text value → denotes' text value ∨ Hides text)
    (spelled : Rule .lenient denotes text value) :
    Rule .strict denotes' text value ∨ Hides text := by
  cases spelled with
  | scalar one =>
      rcases one.strict_or_offends with same | ⟨cause, offends⟩
      · exact Or.inl (Rule.scalar same)
      · exact Or.inr ⟨[], text, cause, rfl, Opens.value, offends⟩
  | string one => exact Or.inl (Rule.string one)
  | emptyArray are => exact Or.inl (Rule.emptyArray are)
  | emptyObject are => exact Or.inl (Rule.emptyObject are)
  | array separated =>
      rcases separated.each_or fun one => one.strict_or_hides each with
        same | ⟨before, part, later, rfl, leading, hides, ends⟩
      · exact Or.inl (Rule.array same)
      · have ended := ends.append_ends (ends_cons (Or.inr (Or.inl rfl)) : Ends [CodePoint.ofChar ']'])
        have hidden := (hides.item lenient leading).append ended
        right
        simpa only [List.cons_append, List.append_assoc] using hidden
  | object separated =>
      rcases separated.each_or fun one => one.strict_or_hides each with
        same | ⟨before, part, later, rfl, leading, hides, ends⟩
      · exact Or.inl (Rule.object same)
      · have ended := ends.append_ends (ends_cons (Or.inr (Or.inr rfl)) : Ends [CodePoint.ofChar '}'])
        have hidden := (hides.member lenient leading).append ended
        right
        simpa only [List.cons_append, List.append_assoc] using hidden

end

theorem Grammar.DerivesWithin.strict_or_hides {budget : Nat}
    (within : DerivesWithin .lenient budget text value) :
    DerivesWithin .strict budget text value ∨ Hides text := by
  induction budget generalizing text value with
  | zero => exact within.elim
  | succ budget ih => exact Rule.strict_or_hides DerivesWithin.derives ih within

/-- What a lenient reader takes for a value a strict one takes too, or a token hides in it that the
strict reader refuses. -/
theorem Grammar.Derives.strict_or_hides (derives : Derives .lenient text value) :
    Derives .strict text value ∨ Hides text := by
  obtain ⟨budget, within⟩ := derives_iff.mp derives
  exact within.strict_or_hides.imp_left DerivesWithin.derives

theorem Grammar.Enters.strict_or_hides {front : Text} (enters : Enters (Derives .lenient) front) :
    Enters (Derives .strict) front ∨
      ∃ text later, front = text ++ CodePoint.ofChar ',' :: later ∧ Hides text := by
  cases enters with
  | @item parts blanks leading are =>
      rcases leading.each_or fun one => one.strict_or_hides Derives.strict_or_hides with
        same | ⟨before, part, later, rfl, earlier, hides⟩
      · exact Or.inl (Enters.item same are)
      · refine Or.inr ⟨_, later ++ blanks, ?_, hides.item id earlier⟩
        simp only [List.cons_append, List.append_assoc]
  | @member parts key name blanks leading named are =>
      rcases leading.each_or fun one => one.strict_or_hides Derives.strict_or_hides with
        same | ⟨before, part, later, rfl, earlier, hides⟩
      · exact Or.inl (Enters.member same named are)
      · refine Or.inr ⟨_, later ++ (key ++ CodePoint.ofChar ':' :: blanks), ?_,
          hides.member id earlier⟩
        simp only [List.cons_append, List.append_assoc]

theorem Grammar.Opens.strict_or_hides {before : Text} (opens : Opens .lenient before) :
    Opens .strict before ∨
      ∃ text later, before = text ++ CodePoint.ofChar ',' :: later ∧ Hides text := by
  induction opens with
  | value => exact Or.inl Opens.value
  | @inside front rest enters _ ih =>
      rcases enters.strict_or_hides with same | ⟨text, later, rfl, hides⟩
      · rcases ih with others | ⟨text, later, rfl, hides⟩
        · exact Or.inl (Opens.inside same others)
        · exact Or.inr ⟨front ++ text, later, (List.append_assoc _ _ _).symm,
            hides.enters id enters⟩
      · refine Or.inr ⟨text, later ++ rest, ?_, hides⟩
        rw [List.append_assoc, List.cons_append]

theorem Reaches.exists_offends {before : Text} (reaches : Reaches text before cause) :
    ∃ rest, text = before ++ rest ∧ Offends rest cause := by
  cases reaches with
  | after _ _ offends => exact ⟨_, rfl, offends⟩

theorem Grammar.Stalls.of_expectedValue {denotes : Text → Value → Prop} {here unread later : Text}
    (stalls : Stalls policy denotes (.fault .expectedValue later) here unread) : here = [] := by
  have string {before unread : Text} (halts : StringHalts .expectedValue before unread) : False := by
    cases halts with
    | broken breaks => cases breaks
  cases stalls with
  | scalar => rfl
  | string halts => exact (string halts).elim
  | key _ halts _ =>
      cases halts with
      | string halts => exact (string halts).elim

/-- With a question mark in the place of what follows, a lenient reader is at fault just where it
comes to a value. -/
theorem reaches_iff {before : Text} (shallow : before.nesting < depthLimit) :
    Reaches text before cause ↔ (∃ rest, text = before ++ rest ∧ Offends rest cause) ∧
      Json.read .lenient (before ++ [CodePoint.ofChar '?']) = .error (.fault .expectedValue
        (Position.after (before ++ [CodePoint.ofChar '?']) before.length)) := by
  constructor
  · intro reaches
    refine ⟨reaches.exists_offends, ?_⟩
    cases reaches with
    | @after blanks inside rest _ are opens offends =>
        have inner := are.isBalanced.deepest_le inside [] 0
        have limit : depthLimit = 999 + 1 := rfl
        rw [List.append_nil] at inner
        rw [Text.nesting] at shallow
        obtain ⟨left, opened⟩ :=
          opens.within (show Scan.deepest ⟨.outside, 0⟩ inside ≤ 0 + 999 by omega)
        refine read_eq_error_fault ?_
        rw [List.append_assoc]
        exact readDocument_halts are opened ⟨_, _, rfl, by decide, by decide, by decide⟩
          fun _ _ => rfl
  · rintro ⟨⟨rest, rfl, offends⟩, failed⟩
    obtain ⟨same, unread, shape, place, halts⟩ := of_read_fault failed
    have lengths : before.length = same.length := congrArg Position.index place
    obtain ⟨rfl, rfl⟩ := List.append_inj shape lengths
    obtain ⟨again, shape, found⟩ := of_readDocument_fault halts
    obtain rfl := List.append_cancel_right shape
    rcases found with ⟨other, _⟩ | ⟨blanks, outer, here, left, rfl, are, opened, stalls⟩
    · cases other
    · obtain rfl := stalls.of_expectedValue
      rw [List.append_nil]
      exact Reaches.after are opened.opens offends

/-! The first token -/

theorem exists_reachesFirst {before : Text} (reaches : Reaches text before cause) :
    ∃ before cause, ReachesFirst text before cause := by
  classical
  have some_ : ∃ length, ∃ before cause, Reaches text before cause ∧ before.length = length :=
    ⟨_, before, cause, reaches, rfl⟩
  obtain ⟨first, cause, reaches, length⟩ := Nat.find_spec some_
  refine ⟨first, cause, reaches, fun other cause' later => ?_⟩
  rw [length]
  exact Nat.find_min' some_ ⟨other, cause', later, rfl⟩

theorem ReachesFirst.strict {before : Text} (reaches : ReachesFirst text before cause) :
    ∃ blanks inside rest, text = blanks ++ (inside ++ rest) ∧ AreBlanks blanks ∧
      Opens .strict inside ∧ Offends rest cause := by
  obtain ⟨reaches, first⟩ := reaches
  cases reaches with
  | @after blanks inside rest _ are opens offends =>
      refine ⟨blanks, inside, rest, List.append_assoc _ _ _, are, ?_, offends⟩
      rcases opens.strict_or_hides with same | ⟨inner, later, rfl, hides⟩
      · exact same
      · obtain ⟨outer, tail, cause', rfl, opens, offends⟩ := hides
        have here := offends (CodePoint.ofChar ',' :: (later ++ rest)) (ends_cons (Or.inl rfl))
        have reaches := Reaches.after are opens here
        have earlier := first (blanks ++ outer) cause' (by
          simpa only [List.append_assoc, List.cons_append] using reaches)
        simp only [List.length_append, List.length_cons] at earlier
        omega

theorem readDocument_opensScalar {blanks inside : Text} {left : Nat} {first : CodePoint}
    {halt : Halt} (are : AreBlanks blanks)
    (opened : OpensWithin policy depthLimit (left + 1) inside) (opens : OpensScalar first)
    (halts : readScalar policy (first :: rest) = .error halt) :
    readDocument policy (blanks ++ (inside ++ first :: rest)) = .error halt := by
  have outside := opens.2
  simp only [brackets, List.mem_cons, List.not_mem_nil, or_false, not_or] at outside
  refine readDocument_halts are opened ⟨first, rest, rfl, opens.1, outside.2.2.1,
    outside.2.2.2.2⟩ fun limit _ => ?_
  rw [readValue, readValueWith_opensScalar opens, halts]

theorem Offends.readDocument {blanks inside : Text} {left : Nat} (are : AreBlanks blanks)
    (opened : OpensWithin .strict depthLimit (left + 1) inside) (offends : Offends rest cause) :
    readDocument .strict (blanks ++ (inside ++ rest)) = .error (.refusal cause) := by
  obtain ⟨first, others, rfl, opens⟩ := offends.begins
  exact readDocument_opensScalar are opened opens offends.readScalar

theorem Offends.isStrict (offends : Offends text cause) : cause.IsStrict := by
  cases offends with
  | constant => exact Or.inl ⟨_, rfl⟩
  | number => exact Or.inr ⟨_, rfl⟩

theorem Reaches.isStrict {before : Text} (reaches : Reaches text before cause) :
    cause.IsStrict := by
  obtain ⟨_, _, offends⟩ := reaches.exists_offends
  exact offends.isStrict

theorem Refusal.IsStrict.ne_tooDeep (strict : cause.IsStrict) : cause ≠ .tooDeep := by
  rcases strict with ⟨_, rfl⟩ | ⟨_, rfl⟩ <;> exact Refusal.noConfusion

theorem ReachesFirst.read {before : Text} (reaches : ReachesFirst text before cause)
    (shallow : text.nesting < depthLimit) :
    Json.read .strict text = .error (.refusal cause) := by
  obtain ⟨blanks, inside, rest, rfl, are, opens, offends⟩ := reaches.strict
  have inner := are.isBalanced.deepest_le inside rest 0
  have limit : depthLimit = 999 + 1 := rfl
  rw [Text.nesting, ← List.append_assoc] at shallow
  obtain ⟨left, opened⟩ := opens.within (show Scan.deepest ⟨.outside, 0⟩ inside ≤ 0 + 999 by omega)
  rw [Json.read, offends.readDocument are opened]
  rfl

theorem of_readDocument_strict (failed : readDocument .strict text = .error (.refusal cause))
    (strict : cause.IsStrict) : ∃ before, Reaches text before cause := by
  rcases of_readDocument_refusal failed with deep | ⟨blanks, outer, rest, left, rfl, are, opened,
    refuses⟩
  · exact absurd deep strict.ne_tooDeep
  · rcases of_readScalar_refusal refuses with offends | ⟨count, rfl⟩
    · have opens : Opens .lenient outer := opened.opens.imp Derives.lenient
      rw [← List.append_assoc]
      exact ⟨_, Reaches.after are opens offends⟩
    · rcases strict with ⟨_, same⟩ | ⟨_, same⟩ <;> cases same

theorem read_unreached (unreached : ∀ before cause, ¬ Reaches text before cause) :
    Json.read .strict text = Json.read .lenient text := by
  rcases readDocument_concedes text with same | ⟨cause, strict, refuses⟩
  · rw [Json.read, same]
    rfl
  · obtain ⟨before, reaches⟩ := of_readDocument_strict refuses strict
    exact absurd reaches (unreached before cause)

theorem read_lenient (reads : Json.read policy text = .ok value) :
    Json.read .lenient text = .ok value :=
  read_iff.mpr (Padded.imp descends_true (fun _ => DerivesWithin.lenient) trivial
    (read_iff.mp reads))

theorem readUnmarked_unreached (unreached : ∀ before cause, ¬ Reaches text before cause) :
    readUnmarked .strict text = readUnmarked .lenient text := by
  unfold readUnmarked
  split
  · split_ifs
    · rfl
    · exact read_unreached unreached
  · exact read_unreached unreached

end Catalogue.Json

import Mathlib
import Catalogue.Proofs.Json.Halting

/-!
What a fault says about the text before it and after it. The text before a fault is the beginning of
a text that can be read. After some faults nothing mends the text, whatever is written behind it.
-/

namespace Catalogue.Json

open Grammar

/-- Nothing that is written behind such a fault mends the text. -/
def Fault.IsFinal (fault : Fault) : Prop :=
  fault = .controlCharacter ∨ fault = .unknownEscape ∨ fault = .expectedKey ∨
    fault = .expectedColon

variable {policy : Policy} {nested : Reader Value} {denotes : Text → Value → Prop}
  {limit budget : Nat} {fault : Fault} {before unread here : Text}

theorem Grammar.Characters.completes {characters string : Text}
    (spelled : Characters characters string) :
    ∃ longer, Quoted (CodePoint.quotationMark :: (characters ++
      [CodePoint.reverseSolidus, CodePoint.ofChar 'n', CodePoint.quotationMark])) longer := by
  have lacks := lacksUnit_escape (show CodePoint.ofChar 'n' ≠ 'u' by decide)
    [CodePoint.quotationMark]
  obtain ⟨less, bound, same⟩ := readStringBody_characters (CodePoint.quotationMark :: (characters ++
    [CodePoint.reverseSolidus, CodePoint.ofChar 'n', CodePoint.quotationMark])) spelled lacks []
    (Nat.lt_add_of_pos_right (Nat.zero_lt_succ 1))
  obtain ⟨less, rfl⟩ : ∃ fewer, less = fewer + 2 := ⟨less - 2, by omega⟩
  obtain ⟨consumed, shape, quoted⟩ := of_readString same
  rw [List.append_nil] at shape
  exact ⟨_, shape ▸ quoted⟩

theorem Grammar.Breaks.completes (breaks : Breaks fault before unread) :
    ∃ ending string, Quoted (CodePoint.quotationMark :: (before ++ ending)) string := by
  cases breaks with
  | control spelled _ | escape spelled _ _ => exact ⟨_, _, Quoted.quoted spelled⟩
  | unit spelled =>
      obtain ⟨string, quoted⟩ := spelled.completes
      refine ⟨[CodePoint.ofChar 'n', CodePoint.quotationMark], string, ?_⟩
      rwa [List.append_assoc]

theorem Grammar.StringHalts.completes (halts : StringHalts fault before unread) :
    ∃ ending string, Quoted (before ++ ending) string := by
  cases halts with
  | unterminated => exact ⟨_, _, Quoted.quoted Characters.done⟩
  | broken breaks => exact breaks.completes

theorem Grammar.KeyHalts.completes (halts : KeyHalts fault before unread) {text : Text}
    {value : Value} (derives : denotes text value) :
    ∃ ending member, Member denotes (before ++ ending) member := by
  have named {key name : Text} (one : Padded Quoted key name) :
      Member denotes (key ++ CodePoint.ofChar ':' :: text) (name, value) :=
    Member.member one (padded_self derives)
  cases halts with
  | key =>
      have empty := padded_self (Quoted.quoted Characters.done)
      exact ⟨_ ++ CodePoint.ofChar ':' :: text, _, named empty⟩
  | string halts =>
      obtain ⟨ending, name, quoted⟩ := halts.completes
      refine ⟨ending ++ CodePoint.ofChar ':' :: text, (name, value), ?_⟩
      rw [← List.append_assoc]
      exact named (padded_self quoted)
  | colon one are _ => exact ⟨_, _, named ((padded_self one).after are)⟩

theorem Grammar.Precedes.separated {α : Type} {spells : Text → α → Prop} {front text : Text}
    {item : α} (admits : AdmitsBlanks spells) (precedes : Precedes spells front)
    (one : spells text item) : ∃ items, Separated spells (front ++ text) items := by
  cases precedes with
  | parts leading are =>
      rw [List.append_assoc]
      exact leading.separated (Separated.last (admits.before are one))

theorem rule_zero : Rule policy denotes [CodePoint.ofChar '0'] (.integer 0) :=
  Rule.scalar (@Scalar.integer policy false _ Whole.zero (by decide))

/-- What is read of a value can be completed, if there is any value for a key without one. -/
theorem Grammar.Stalls.completes {halt : Halt} (stalls : Stalls policy denotes halt here unread)
    (some_ : ∃ text value, denotes text value) :
    ∃ ending value, Rule policy denotes (here ++ ending) value := by
  cases stalls with
  | scalar => exact ⟨_, _, rule_zero⟩
  | string halts =>
      obtain ⟨ending, string, quoted⟩ := halts.completes
      exact ⟨ending, _, Rule.string quoted⟩
  | item precedes one =>
      obtain ⟨items, separated⟩ := precedes.separated admitsBlanks_padded one
      exact ⟨_, _, Rule.array separated⟩
  | member precedes one =>
      obtain ⟨members, separated⟩ := precedes.separated admitsBlanks_member one
      exact ⟨_, _, Rule.object separated⟩
  | @key _ front before _ precedes halts _ =>
      obtain ⟨text, value, derives⟩ := some_
      obtain ⟨ending, member, one⟩ := halts.completes derives
      obtain ⟨members, separated⟩ := precedes.separated admitsBlanks_member one
      have rule : Rule policy denotes _ _ := Rule.object separated
      refine ⟨ending ++ [CodePoint.ofChar '}'], .object (merged members), ?_⟩
      simpa only [List.cons_append, List.append_assoc] using rule

theorem of_readScalar_fault {text rest : Text}
    (failed : readScalar policy text = .error (.fault fault rest)) :
    fault = .expectedValue ∧ rest = text := by
  rcases of_readScalar_error failed with same | ⟨_, _, _, _, _, _, same⟩ | ⟨token, _, _, refused⟩
  · exact Halt.fault.inj same
  · cases same
  · rcases NumberToken.of_value_error refused with ⟨_, _, same⟩ | ⟨_, _, _, same⟩ <;> cases same

theorem Grammar.Breaks.stays (breaks : Breaks fault before unread) (final : fault.IsFinal)
    (opening more : Text) (enough : (before ++ unread).length < limit) (read : Text) :
    readStringBody opening limit read (before ++ (unread ++ more)) =
      .error (.fault fault (unread ++ more)) := by
  rw [List.length_append] at enough
  cases breaks with
  | @control _ string rest code spelled low =>
      have solid : code ≠ CodePoint.quotationMark ∧ code ≠ CodePoint.reverseSolidus := by
        constructor <;> rintro rfl <;> exact absurd low (by decide)
      obtain ⟨less, bound, same⟩ := readStringBody_characters opening spelled
        (lacksUnit_cons solid.2 (rest ++ more)) read (Nat.lt_of_le_of_lt (Nat.le_add_right _ _) enough)
      obtain ⟨less, rfl⟩ : ∃ fewer, less = fewer + 1 := ⟨less - 1, by omega⟩
      rw [List.cons_append, same, readStringBody, if_neg solid.1, if_neg solid.2, if_pos low]
      rfl
  | @escape _ string rest letter spelled notUnit unknown =>
      obtain ⟨less, bound, same⟩ := readStringBody_characters opening spelled
        (lacksUnit_escape notUnit (rest ++ more)) read
        (Nat.lt_of_le_of_lt (Nat.le_add_right _ _) enough)
      obtain ⟨less, rfl⟩ : ∃ fewer, less = fewer + 1 := ⟨less - 1, by omega⟩
      have none_ : shortEscapes.find? (·.1 = letter) = none := by
        cases found : shortEscapes.find? (·.1 = letter) with
        | none => rfl
        | some entry =>
            exact absurd (shortEscape_of_find? (found.trans rfl)) (unknown entry.2)
      rw [List.cons_append, List.cons_append, same, readStringBody, if_neg (by decide),
        if_pos rfl, readEscape, if_neg notUnit, none_]
      rfl
  | unit => exact absurd final (by simp [Fault.IsFinal])

theorem Grammar.StringHalts.stays (halts : StringHalts fault before unread)
    (final : fault.IsFinal) (more : Text) (enough : (before ++ unread).length < limit) :
    readString limit (before ++ (unread ++ more)) = .error (.fault fault (unread ++ more)) := by
  cases halts with
  | unterminated => exact absurd final (by simp [Fault.IsFinal])
  | broken breaks => exact breaks.stays final _ more (Nat.lt_of_succ_lt enough) []

theorem Grammar.StringHalts.begins (halts : StringHalts fault before unread) (more : Text) :
    ∃ rest, before ++ (unread ++ more) = CodePoint.quotationMark :: rest := by
  cases halts with
  | unterminated | broken => exact ⟨_, rfl⟩

theorem Grammar.KeyHalts.starts (halts : KeyHalts fault before unread) (present : unread ≠ [])
    (more : Text) :
    ∃ code rest, before ++ (unread ++ more) = code :: rest ∧ isBlank code = false := by
  cases halts with
  | key other =>
      obtain ⟨code, rest, rfl⟩ := List.exists_cons_of_ne_nil present
      exact ⟨code, _, rfl, (other code rfl).1⟩
  | string halts =>
      obtain ⟨rest, shape⟩ := halts.begins more
      exact ⟨_, rest, shape, by decide⟩
  | colon one _ _ =>
      cases one with
      | quoted => exact ⟨_, _, rfl, by decide⟩

theorem Grammar.KeyHalts.stays (halts : KeyHalts fault before unread) (final : fault.IsFinal)
    (present : unread ≠ []) (more : Text) (enough : (before ++ unread).length < limit) :
    readMember nested limit (before ++ (unread ++ more)) =
      .error (.fault fault (unread ++ more)) := by
  cases halts with
  | key other =>
      obtain ⟨code, rest, rfl⟩ := List.exists_cons_of_ne_nil present
      rw [List.nil_append, List.cons_append, readMember, if_neg (other code rfl).2]
      rfl
  | string halts =>
      have failed := halts.stays final more enough
      obtain ⟨rest, shape⟩ := halts.begins more
      rw [shape] at failed ⊢
      rw [readMember, if_pos rfl, failed]
      rfl
  | @colon key name blanks _ one are other =>
      obtain ⟨code, rest, rfl⟩ := List.exists_cons_of_ne_nil present
      obtain ⟨solid, notColon⟩ := other code rfl
      simp only [List.length_append] at enough
      have next : skipBlanks (blanks ++ (code :: rest ++ more)) = code :: rest ++ more :=
        skipBlanks_append are fun first same => Option.some.inj same ▸ solid
      have reads := readString_quoted one (show key.length < limit by omega)
        (blanks ++ (code :: rest ++ more))
      rw [List.append_assoc]
      cases one with
      | quoted =>
          rw [List.cons_append] at reads ⊢
          rw [readMember, if_pos rfl, reads, bind_ok]
          dsimp only
          rw [next]
          exact if_neg notColon

theorem skipBlanks_append_right {text : Text} (present : skipBlanks text ≠ []) (more : Text) :
    skipBlanks (text ++ more) = skipBlanks text ++ more := by
  rw [skipBlanks, List.dropWhile_append, if_neg]
  · rfl
  · rwa [List.isEmpty_iff]

/-- A final fault in a text that is not at its end is found again whatever is written behind. -/
theorem Grammar.Stalls.stays (gives : Gives nested denotes limit) {rest more : Text}
    (stalls : Stalls policy denotes (.fault fault rest) here unread) (final : fault.IsFinal)
    (present : unread ≠ []) (short : (here ++ (unread ++ more)).length < limit) :
    Begins (here ++ (unread ++ more)) ∧
      readValueWith policy limit nested (here ++ (unread ++ more)) =
        .error (.fault fault (unread ++ more)) := by
  cases stalls with
  | scalar failed _ =>
      rw [(of_readScalar_fault failed).1] at final
      exact absurd final (by simp [Fault.IsFinal])
  | item | member => exact absurd final (by simp [Fault.IsFinal])
  | string halts =>
      have enough : (here ++ unread).length < limit := by
        simp only [List.length_append] at short ⊢
        omega
      have failed := halts.stays final more enough
      obtain ⟨others, shape⟩ := halts.begins more
      rw [shape] at failed ⊢
      refine ⟨⟨_, _, rfl, by decide, by decide, by decide⟩, ?_⟩
      rw [readValueWith, if_pos rfl, failed]
      rfl
  | @key _ front before _ precedes halts open_ =>
      refine ⟨⟨_, _, rfl, by decide, by decide, by decide⟩, ?_⟩
      obtain ⟨code, others, shape, solid⟩ := halts.starts present more
      have found : skipBlanks (front ++ (before ++ unread)) ≠ [] := by
        obtain ⟨code, others, shape, solid⟩ := halts.starts present []
        rw [List.append_nil] at shape
        rw [shape, skipBlanks, Ne, List.dropWhile_eq_nil_iff]
        exact fun blank => absurd (blank code (by simp)) (Bool.eq_false_iff.mp solid)
      have same := skipBlanks_append_right found more
      simp only [List.append_assoc] at same
      simp only [List.cons_append, List.append_assoc, List.length_append, List.length_cons]
        at short ⊢
      have still : ∀ code ∈ (skipBlanks (front ++ (before ++ (unread ++ more)))).head?,
          code ≠ '}' := by
        rwa [same, List.head?_append_of_ne_nil _ found]
      rw [readValueWith_object still, readMembers_eq]
      cases precedes with
      | @parts parts blanks leading are =>
          simp only [List.append_assoc, List.length_append] at short ⊢
          refine readSeparated_halts gives.member leading ?_ ?_ []
          · rw [skipBlanks_append are fun first same => by
              rw [shape] at same
              exact Option.some.inj same ▸ solid]
            exact halts.stays final present more (by simp only [List.length_append]; omega)
          · simp only [List.length_append]
            omega

/-- The line and the column of a place: lines count from one, and columns from the last line feed
before the place or from one before the text. -/
structure Position.IsIn (position : Position) (text : Text) : Prop where
  bounded : position.index ≤ text.length
  line : position.line = (text.take position.index).count CodePoint.lineFeed + 1
  afterLineFeed : ∀ last < position.index, text[last]? = some CodePoint.lineFeed →
    (∀ later, last < later → later < position.index → text[later]? ≠ some CodePoint.lineFeed) →
      position.column = position.index - last
  firstLine : (∀ place < position.index, text[place]? ≠ some CodePoint.lineFeed) →
    position.column = position.index + 1

theorem Position.after_isIn (before unread : Text) :
    (Position.after (before ++ unread) before.length).IsIn (before ++ unread) := by
  have row {others : Text} (none_ : ∀ code ∈ others, code ≠ CodePoint.lineFeed) :
      ∀ code ∈ others.reverse, decide (code ≠ CodePoint.lineFeed) = true := fun code member =>
    decide_eq_true (none_ code (List.mem_reverse.mp member))
  have inside {place : Nat} (earlier : place < before.length) :
      (before ++ unread)[place]? = some before[place] := by
    rw [List.getElem?_append_left earlier, List.getElem?_eq_getElem earlier]
  refine ⟨by simp [Position.after], rfl, fun last earlier found alone => ?_, fun alone => ?_⟩
  · change last < before.length at earlier
    rw [inside earlier, Option.some.injEq] at found
    have split : before = before.take last ++ CodePoint.lineFeed :: before.drop (last + 1) := by
      rw [← found, List.getElem_cons_drop, List.take_append_drop]
    have none_ : ∀ code ∈ before.drop (last + 1), code ≠ CodePoint.lineFeed := by
      rintro _ member rfl
      obtain ⟨place, bound, same⟩ := List.getElem_of_mem member
      rw [List.getElem_drop] at same
      rw [List.length_drop] at bound
      have later : last + 1 + place < before.length := by omega
      exact alone (last + 1 + place) (by omega) later ((inside later).trans (congrArg some same))
    have reversed : before.reverse =
        (before.drop (last + 1)).reverse ++ CodePoint.lineFeed :: (before.take last).reverse := by
      conv_lhs => rw [split]
      simp
    simp only [Position.after, List.take_left]
    rw [reversed, List.takeWhile_append_of_pos (row none_), List.takeWhile_cons_of_neg (by simp),
      List.append_nil, List.length_reverse, List.length_drop]
    omega
  · have none_ : ∀ code ∈ before, code ≠ CodePoint.lineFeed := by
      rintro _ member rfl
      obtain ⟨place, bound, same⟩ := List.getElem_of_mem member
      exact alone place bound ((inside bound).trans (congrArg some same))
    simp only [Position.after, List.take_left]
    rw [← List.append_nil before.reverse, List.takeWhile_append_of_pos (row none_),
      List.takeWhile_nil, List.append_nil, List.length_reverse]

/-! Whole texts -/

variable {text : Text} {position : Position}

theorem Grammar.Stalls.eq_unread {rest : Text}
    (stalls : Stalls policy denotes (.fault fault rest) here unread) : rest = unread := by
  cases stalls with
  | scalar failed _ => exact (of_readScalar_fault failed).2
  | string | item | member | key => rfl

theorem Grammar.StringHalts.ne_extraText (halts : StringHalts fault before unread) :
    fault ≠ .extraText := by
  cases halts with
  | unterminated => decide
  | broken breaks => cases breaks <;> decide

theorem Grammar.Stalls.ne_extraText {rest : Text}
    (stalls : Stalls policy denotes (.fault fault rest) here unread) : fault ≠ .extraText := by
  cases stalls with
  | scalar failed _ => rw [(of_readScalar_fault failed).1]; decide
  | string halts => exact halts.ne_extraText
  | item | member => decide
  | key _ halts _ =>
      cases halts with
      | string halts => exact halts.ne_extraText
      | key | colon => decide

theorem of_readDocument_fault (failed : readDocument policy text = .error (.fault fault unread)) :
    ∃ before, text = before ++ unread ∧
      ((fault = .extraText ∧ ∃ value, readDocument policy before = .ok value) ∨
        ∃ blanks outer here left, before = blanks ++ (outer ++ here) ∧ AreBlanks blanks ∧
          OpensWithin policy depthLimit (left + 1) outer ∧
            Stalls policy (DerivesWithin policy left) (.fault fault unread) here unread) := by
  obtain ⟨blanks, are, start⟩ := exists_blanks text
  rcases bind_eq_error failed with inner | ⟨⟨value, rest⟩, reads, last⟩
  · have short := Nat.lt_succ_of_le (List.length_dropWhile_le isBlank text)
    rcases of_readValue_error inner short with deep | ⟨outer, here, rest, left, shape, opened, stalls⟩
    · cases deep
    · obtain rfl := stalls.eq_unread
      refine ⟨blanks ++ (outer ++ here), ?_, Or.inr ⟨blanks, outer, here, left, rfl, are, opened,
        stalls⟩⟩
      rw [start, shape, List.append_assoc, List.append_assoc]
  · obtain ⟨consumed, shape, within⟩ := of_readValue depthLimit reads
    obtain ⟨after, areAfter, finish⟩ := exists_blanks rest
    dsimp only at last
    split at last
    · cases last
    · obtain ⟨rfl, rfl⟩ := Halt.fault.inj (Except.error.inj last)
      refine ⟨blanks ++ consumed ++ after, ?_, Or.inl ⟨rfl, value,
        readDocument_iff.mpr (Padded.padded are within areAfter)⟩⟩
      rw [List.append_assoc, ← finish, List.append_assoc, ← shape, ← start]

theorem of_readDocument_refusal {cause : Refusal}
    (failed : readDocument policy text = .error (.refusal cause)) : cause = .tooDeep ∨
      ∃ blanks outer unread left, text = blanks ++ (outer ++ unread) ∧ AreBlanks blanks ∧
        OpensWithin policy depthLimit (left + 1) outer ∧
          readScalar policy unread = .error (.refusal cause) := by
  rcases bind_eq_error failed with inner | ⟨⟨value, rest⟩, _, last⟩
  · obtain ⟨blanks, are, start⟩ := exists_blanks text
    have short := Nat.lt_succ_of_le (List.length_dropWhile_le isBlank text)
    rcases of_readValue_error inner short with deep | ⟨outer, here, unread, left, shape, opened,
      stalls⟩
    · exact Or.inl (Halt.refusal.inj deep)
    · cases stalls with
      | scalar refuses _ => exact Or.inr ⟨blanks, outer, unread, left, shape ▸ start, are, opened,
          refuses⟩
  · dsimp only at last
    split at last <;> cases last

theorem of_read_fault (failed : Json.read policy text = .error (.fault fault position)) :
    ∃ before unread, text = before ++ unread ∧ position = Position.after text before.length ∧
      readDocument policy text = .error (.fault fault unread) := by
  rw [Json.read] at failed
  cases result : readDocument policy text with
  | ok value =>
      rw [result] at failed
      cases failed
  | error halt =>
      rw [result] at failed
      cases halt with
      | refusal => cases failed
      | fault cause unread =>
          obtain ⟨rfl, same⟩ := Failure.fault.inj (Except.error.inj failed)
          obtain ⟨before, rfl, _⟩ := of_readDocument_fault result
          refine ⟨before, unread, rfl, same.symm.trans ?_, rfl⟩
          rw [List.length_append, Nat.add_sub_cancel]

theorem read_eq_error_fault (halts : readDocument policy (before ++ unread) =
    .error (.fault fault unread)) :
    Json.read policy (before ++ unread) =
      .error (.fault fault (Position.after (before ++ unread) before.length)) := by
  rw [Json.read, halts, Except.mapError, Halt.failure, List.length_append, Nat.add_sub_cancel]

theorem read_fault_viable (failed : Json.read policy text = .error (.fault fault position))
    (shallow : text.nesting + 1 < depthLimit) :
    ∃ continuation value,
      Json.read policy (text.take position.index ++ continuation) = .ok value := by
  obtain ⟨before, unread, rfl, rfl, halts⟩ := of_read_fault failed
  rw [show (Position.after (before ++ unread) before.length).index = before.length from rfl,
    List.take_left]
  obtain ⟨same, shape, found⟩ := of_readDocument_fault halts
  obtain rfl := List.append_cancel_right shape
  rcases found with ⟨_, value, reads⟩ | ⟨blanks, outer, here, left, rfl, are, opened, stalls⟩
  · refine ⟨[], value, ?_⟩
    rwa [List.append_nil, read_iff, ← readDocument_iff]
  · have deep := opened.deepest 0 (here ++ unread)
    have inner := are.isBalanced.deepest_le (outer ++ (here ++ unread)) [] 0
    simp only [List.append_assoc, List.append_nil] at inner shallow
    rw [Text.nesting] at shallow
    obtain ⟨left, rfl⟩ : ∃ less, left = less + 1 := ⟨left - 1, by omega⟩
    obtain ⟨ending, value, rule⟩ := stalls.completes ⟨_, _, rule_zero⟩
    obtain ⟨closing, whole, within⟩ := opened.completes rule
    refine ⟨ending ++ closing, whole, read_iff.mpr ?_⟩
    have padded := (padded_self within).before are
    simpa only [List.append_assoc] using padded

theorem read_extraText (failed : Json.read policy text = .error (.fault .extraText position)) :
    ∃ value, Json.read policy (text.take position.index) = .ok value := by
  obtain ⟨before, unread, rfl, rfl, halts⟩ := of_read_fault failed
  obtain ⟨same, shape, found⟩ := of_readDocument_fault halts
  obtain rfl := List.append_cancel_right shape
  rcases found with ⟨_, value, reads⟩ | ⟨blanks, outer, here, left, _, _, _, stalls⟩
  · refine ⟨value, ?_⟩
    rw [show (Position.after (before ++ unread) before.length).index = before.length from rfl,
      List.take_left]
    rwa [read_iff, ← readDocument_iff]
  · exact absurd rfl stalls.ne_extraText

theorem read_fault_final (failed : Json.read policy text = .error (.fault fault position))
    (final : fault.IsFinal) (inside : position.index < text.length) (continuation : Text) :
    Json.read policy (text ++ continuation) = .error (.fault fault position) := by
  obtain ⟨before, unread, rfl, rfl, halts⟩ := of_read_fault failed
  obtain ⟨same, shape, found⟩ := of_readDocument_fault halts
  obtain rfl := List.append_cancel_right shape
  have present : unread ≠ [] := by
    rintro rfl
    change before.length < (before ++ []).length at inside
    rw [List.append_nil] at inside
    exact absurd inside (Nat.lt_irrefl _)
  rcases found with ⟨rfl, _⟩ | ⟨blanks, outer, here, left, rfl, are, opened, stalls⟩
  · exact absurd final (by simp [Fault.IsFinal])
  · have place : Position.after (blanks ++ (outer ++ here) ++ unread ++ continuation)
        (blanks ++ (outer ++ here)).length =
          Position.after (blanks ++ (outer ++ here) ++ unread)
            (blanks ++ (outer ++ here)).length := by
      simp only [Position.after, List.append_assoc (blanks ++ (outer ++ here)), List.take_left]
    have stays {limit : Nat} (short : (here ++ (unread ++ continuation)).length < limit) :=
      stalls.stays (readValue_gives limit left) final present short
    rw [← place, List.append_assoc _ unread]
    refine read_eq_error_fault ?_
    rw [List.append_assoc, List.append_assoc]
    refine readDocument_halts are opened (stays (Nat.lt_succ_self _)).1 fun limit short => ?_
    rw [List.length_append] at short
    exact (stays (by omega)).2

end Catalogue.Json

import Mathlib
import Catalogue.Proofs.Json.Openings

/-!
Where the reader halts. The text before the place is what the grammar has up to there: arrays and
objects that are still open, and the front of a value. The text after it is what the fault is about.
-/

namespace Catalogue.Json

open Grammar

namespace Grammar

/-- A place inside a string where no string goes on: the fault, what is read of the string, and the
text from the place on. -/
inductive Breaks : Fault → Text → Text → Prop
  | control {characters string rest : Text} {code : CodePoint} : Characters characters string →
      code.val < 0x20 → Breaks .controlCharacter characters (code :: rest)
  | escape {characters string rest : Text} {letter : CodePoint} : Characters characters string →
      letter ≠ 'u' → (∀ code, ¬ ShortEscape letter code) →
      Breaks .unknownEscape characters (CodePoint.reverseSolidus :: letter :: rest)
  | unit {characters string rest : Text} : Characters characters string →
      Breaks .brokenUnicodeEscape (characters ++ [CodePoint.reverseSolidus])
        (CodePoint.ofChar 'u' :: rest)

inductive StringHalts : Fault → Text → Text → Prop
  | unterminated {rest : Text} :
      StringHalts .unterminatedString [] (CodePoint.quotationMark :: rest)
  | broken {fault : Fault} {before unread : Text} : Breaks fault before unread →
      StringHalts fault (CodePoint.quotationMark :: before) unread

inductive KeyHalts : Fault → Text → Text → Prop
  | key {unread : Text} :
      (∀ code ∈ unread.head?, isBlank code = false ∧ code ≠ CodePoint.quotationMark) →
      KeyHalts .expectedKey [] unread
  | string {fault : Fault} {before unread : Text} : StringHalts fault before unread →
      KeyHalts fault before unread
  | colon {key name blanks unread : Text} : Quoted key name → AreBlanks blanks →
      (∀ code ∈ unread.head?, isBlank code = false ∧ code ≠ ':') →
      KeyHalts .expectedColon (key ++ blanks) unread

inductive Precedes {α : Type} (denotes : Text → α → Prop) : Text → Prop
  | parts {parts blanks : Text} : Leading denotes parts → AreBlanks blanks →
      Precedes denotes (parts ++ blanks)

/-- Why no value goes on after its front, which is read, and the text from the place on. -/
inductive Stalls (policy : Policy) (denotes : Text → Value → Prop) : Halt → Text → Text → Prop
  | scalar {halt : Halt} {unread : Text} : readScalar policy unread = .error halt →
      (∀ code ∈ unread.head?, code ≠ CodePoint.quotationMark ∧ code ≠ '[' ∧ code ≠ '{') →
      Stalls policy denotes halt [] unread
  | string {fault : Fault} {before unread : Text} : StringHalts fault before unread →
      Stalls policy denotes (.fault fault unread) before unread
  | item {front part unread : Text} {item : Value} : Precedes (Padded denotes) front →
      Padded denotes part item →
      Stalls policy denotes (.fault .expectedComma unread)
        (CodePoint.ofChar '[' :: (front ++ part)) unread
  | member {front part unread : Text} {member : Text × Value} :
      Precedes (Member denotes) front → Member denotes part member →
      Stalls policy denotes (.fault .expectedComma unread)
        (CodePoint.ofChar '{' :: (front ++ part)) unread
  | key {fault : Fault} {front before unread : Text} : Precedes (Member denotes) front →
      KeyHalts fault before unread →
      (∀ code ∈ (skipBlanks (front ++ (before ++ unread))).head?, code ≠ '}') →
      Stalls policy denotes (.fault fault unread)
        (CodePoint.ofChar '{' :: (front ++ before)) unread

theorem Breaks.lead {fault : Fault} {before unread : Text}
    (breaks : Breaks fault before unread) {lead : Text}
    (each : ∀ {characters string tail}, Characters characters string →
      before ++ unread = characters ++ tail → tail ≠ [] →
        ∃ longer, Characters (lead ++ characters) longer) :
    Breaks fault (lead ++ before) unread := by
  cases breaks with
  | control spelled low =>
      obtain ⟨_, spelled⟩ := each spelled rfl (List.cons_ne_nil _ _)
      exact Breaks.control spelled low
  | escape spelled notUnit unknown =>
      obtain ⟨_, spelled⟩ := each spelled rfl (List.cons_ne_nil _ _)
      exact Breaks.escape spelled notUnit unknown
  | unit spelled =>
      obtain ⟨_, spelled⟩ := each spelled (List.append_assoc _ _ _) (List.cons_ne_nil _ _)
      rw [← List.append_assoc]
      exact Breaks.unit spelled

end Grammar

theorem of_readPair_error {unit : CodePoint} {text : Text} {halt : Halt}
    (failed : readPair unit text = .error halt) :
    ∃ rest, text = CodePoint.reverseSolidus :: CodePoint.ofChar 'u' :: rest ∧
      halt = .fault .brokenUnicodeEscape (CodePoint.ofChar 'u' :: rest) := by
  unfold readPair at failed
  split at failed
  · rename_i solidus letter digits
    split_ifs at failed with pairing
    · obtain ⟨_, rfl, rfl, _⟩ := pairing
      split at failed
      · exact ⟨digits, rfl, (Except.error.inj failed).symm⟩
      · split_ifs at failed
  · cases failed

theorem of_readEscape_error {opening text : Text} {halt : Halt}
    (failed : readEscape opening (CodePoint.reverseSolidus :: text) = .error halt) :
    halt = .fault .unterminatedString opening ∨
      ∃ fault before unread, halt = .fault fault unread ∧
        CodePoint.reverseSolidus :: text = before ++ unread ∧ Breaks fault before unread := by
  cases text with
  | nil => exact Or.inl (Except.error.inj failed).symm
  | cons letter text =>
      right
      rw [readEscape] at failed
      split_ifs at failed with isUnit
      · subst isUnit
        split at failed
        · exact ⟨_, _, _, (Except.error.inj failed).symm, rfl, Breaks.unit Characters.done⟩
        · rename_i unit rest reads
          obtain ⟨digits, rfl, _, spelled⟩ := of_readUnit? reads
          obtain ⟨others, rfl, rfl⟩ := of_readPair_error failed
          have alone : ¬ (unit.isHighSurrogate = true ∧ BeginsWithLowSurrogate []) := by
            rintro ⟨_, escape, rest, low, shape, begins, _⟩
            obtain ⟨digits, rfl⟩ := UnitEscape.exists_cons begins
            cases shape
          refine ⟨_, _, _, rfl, ?_, Breaks.unit (Characters.unit spelled alone Characters.done)⟩
          simp
      · split at failed
        · cases failed
        · rename_i unknown
          refine ⟨_, _, _, (Except.error.inj failed).symm, rfl,
            Breaks.escape Characters.done isUnit fun code escape => ?_⟩
          have known := (find?_of_shortEscape escape).2
          rw [unknown] at known
          cases known

theorem of_readStringBody_error {opening : Text} : ∀ {limit : Nat} {read text : Text}
    {halt : Halt}, readStringBody opening limit read text = .error halt → text.length < limit →
      halt = .fault .unterminatedString opening ∨
        ∃ fault before unread, halt = .fault fault unread ∧ text = before ++ unread ∧
          Breaks fault before unread := by
  intro limit
  induction limit with
  | zero => exact fun _ enough => absurd enough (Nat.not_lt_zero _)
  | succ limit ih =>
      intro read text halt failed enough
      cases text with
      | nil => exact Or.inl (Except.error.inj failed).symm
      | cons code text =>
          have shorter : text.length < limit := Nat.lt_of_succ_lt_succ enough
          rw [readStringBody] at failed
          split_ifs at failed with mark solidus control
          · subst solidus
            rcases bind_eq_error failed with here | ⟨⟨escaped, rest⟩, escape, onward⟩
            · exact of_readEscape_error here
            · rcases ih onward ((length_of_readEscape escape).trans_lt shorter) with
                unterminated | ⟨fault, before, unread, rfl, rfl, breaks⟩
              · exact Or.inl unterminated
              · right
                rcases of_readEscape escape with ⟨letter, rfl, short⟩ |
                  ⟨first, unit, after, shape, begins, more, pair⟩
                · refine ⟨fault, [CodePoint.reverseSolidus, letter] ++ before, unread, rfl, rfl,
                    breaks.lead fun spelled _ _ => ⟨_, Characters.short short spelled⟩⟩
                · rcases of_readPair pair with ⟨rfl, rfl⟩ |
                    ⟨second, low, rfl, isSecond, isHigh, isLow, rfl⟩
                  · refine ⟨fault, first ++ before, unread, rfl, ?_,
                      breaks.lead fun spelled same present => ?_⟩
                    · rw [shape, List.append_assoc]
                    · rw [same] at pair
                      exact ⟨_, Characters.unit begins (not_beginsWithLowSurrogate present pair)
                        spelled⟩
                  · refine ⟨fault, first ++ second ++ before, unread, rfl, ?_,
                      breaks.lead fun spelled _ _ => ⟨_, Characters.pair begins isHigh isSecond
                        isLow (joinSurrogates_val isHigh isLow) spelled⟩⟩
                    rw [shape, List.append_assoc, List.append_assoc]
          · exact Or.inr ⟨_, _, _, (Except.error.inj failed).symm, rfl,
              Breaks.control Characters.done control⟩
          · rcases ih failed shorter with unterminated | ⟨fault, before, unread, rfl, rfl, breaks⟩
            · exact Or.inl unterminated
            · refine Or.inr ⟨fault, [code] ++ before, unread, rfl, rfl,
                breaks.lead fun spelled _ _ => ⟨_, Characters.plain (Nat.le_of_not_lt control) mark
                  solidus spelled⟩⟩

theorem of_readString_error {limit : Nat} {text : Text} {halt : Halt}
    (failed : readString limit (CodePoint.quotationMark :: text) = .error halt)
    (short : (CodePoint.quotationMark :: text).length < limit) :
    ∃ fault before unread, halt = .fault fault unread ∧
      CodePoint.quotationMark :: text = before ++ unread ∧ StringHalts fault before unread := by
  rcases of_readStringBody_error failed (Nat.lt_of_succ_lt short) with
    rfl | ⟨fault, before, unread, rfl, shape, breaks⟩
  · exact ⟨_, [], _, rfl, rfl, StringHalts.unterminated⟩
  · rw [List.drop_one, List.tail_cons] at shape
    exact ⟨fault, _, unread, rfl, congrArg _ shape, StringHalts.broken breaks⟩

variable {α σ : Type} {readPart : Reader α} {spells : Text → α → Prop} {closing : CodePoint}
  {add : σ → α → σ} {finish : σ → Value} {policy : Policy} {nested : Reader Value}
  {denotes : Text → Value → Prop} {limit budget : Nat} {halt : Halt}

theorem Grammar.Precedes.before (admits : AdmitsBlanks spells) {blanks front : Text}
    (are : AreBlanks blanks) (precedes : Precedes spells front) :
    Precedes spells (blanks ++ front) := by
  cases precedes with
  | parts leading areLater =>
      cases leading with
      | none =>
          exact @Precedes.parts _ _ [] _ Leading.none (are.append areLater)
      | more one rest =>
          rw [← List.append_assoc, ← List.append_assoc]
          exact Precedes.parts (Leading.more (admits.before are one) rest) areLater

theorem Grammar.Precedes.more {text front : Text} {part : α} (one : spells text part)
    (precedes : Precedes spells front) :
    Precedes spells (text ++ CodePoint.ofChar ',' :: front) := by
  cases precedes with
  | parts leading are =>
      rw [← List.cons_append, ← List.append_assoc]
      exact Precedes.parts (Leading.more one leading) are

theorem Grammar.precedes_nil : Precedes spells [] := Precedes.parts Leading.none areBlanks_nil

theorem Grammar.Precedes.item {front : Text} (precedes : Precedes (Padded denotes) front) :
    Enters denotes (CodePoint.ofChar '[' :: front) := by
  cases precedes with
  | parts leading are => exact Enters.item leading are

theorem Grammar.Precedes.member {front key name blanks : Text}
    (precedes : Precedes (Member denotes) front) (named : Padded Quoted key name)
    (are : AreBlanks blanks) :
    Enters denotes (CodePoint.ofChar '{' :: (front ++ (key ++ CodePoint.ofChar ':' :: blanks))) := by
  cases precedes with
  | parts leading areBefore =>
      rw [List.append_assoc, ← List.append_assoc _ key]
      exact Enters.member leading (named.before areBefore) are

theorem head_skipBlanks {text : Text} : ∀ code ∈ (skipBlanks text).head?, isBlank code = false := by
  intro code same
  have stopped := List.head?_dropWhile_not isBlank text
  rw [skipBlanks] at same
  rw [same] at stopped
  simpa using stopped

theorem of_readSeparated_error (takes : Takes readPart spells) (admits : AdmitsBlanks spells) :
    ∀ {rounds : Nat} {read : σ} {text : Text},
      readSeparated readPart closing add finish rounds read text = .error halt →
      text.length < rounds → (∀ code ∈ text.head?, isBlank code = false) →
        ∃ front rest, text = front ++ rest ∧ Precedes spells front ∧
          (∀ code ∈ rest.head?, isBlank code = false) ∧ (readPart rest = .error halt ∨
            ∃ part item unread, rest = part ++ unread ∧ spells part item ∧
              halt = .fault .expectedComma unread) := by
  intro rounds
  induction rounds with
  | zero => exact fun _ enough => absurd enough (Nat.not_lt_zero _)
  | succ rounds ih =>
      intro read text failed enough starts
      rw [readSeparated] at failed
      rcases bind_eq_error failed with here | ⟨⟨part, unread⟩, reads, onward⟩
      · exact ⟨[], text, rfl, precedes_nil, starts, Or.inl here⟩
      · obtain ⟨consumed, rfl, one⟩ := takes reads
        obtain ⟨blanks, are, start⟩ := exists_blanks unread
        have padded := admits.after are one
        have halts (same : halt = .fault .expectedComma (skipBlanks unread)) :
            ∃ front rest, consumed ++ unread = front ++ rest ∧ Precedes spells front ∧
              (∀ code ∈ rest.head?, isBlank code = false) ∧ (readPart rest = .error halt ∨
                ∃ part item unread, rest = part ++ unread ∧ spells part item ∧
                  halt = .fault .expectedComma unread) := by
          refine ⟨[], consumed ++ unread, rfl, precedes_nil, starts,
            Or.inr ⟨_, part, _, ?_, padded, same⟩⟩
          rw [List.append_assoc, ← start]
        dsimp only at onward
        split at onward
        · rename_i code others next
          split_ifs at onward with comma
          · subst comma
            obtain ⟨before, areBefore, split⟩ := exists_blanks others
            rw [next] at start
            have lengths := congrArg List.length start
            have lengthsLater := congrArg List.length split
            simp only [List.length_append, List.length_cons] at enough lengths lengthsLater
            obtain ⟨front, rest, shape, precedes, outcome⟩ :=
              ih onward (by omega) head_skipBlanks
            refine ⟨_, rest, ?_, (precedes.before admits areBefore).more padded, outcome⟩
            rw [start, split, shape]
            simp only [List.append_assoc, List.cons_append]
          · exact halts (next ▸ (Except.error.inj onward).symm)
        · rename_i next
          exact halts (next ▸ (Except.error.inj onward).symm)

theorem of_readMember_error {text : Text} (failed : readMember nested limit text = .error halt)
    (short : text.length < limit) (starts : ∀ code ∈ text.head?, isBlank code = false) :
    (∃ fault before unread, halt = .fault fault unread ∧ text = before ++ unread ∧
      KeyHalts fault before unread) ∨
    ∃ key name blanks rest, text = key ++ CodePoint.ofChar ':' :: (blanks ++ rest) ∧
      Padded Quoted key name ∧ AreBlanks blanks ∧ nested rest = .error halt := by
  unfold readMember at failed
  split at failed
  · rename_i mark others
    split_ifs at failed with quoted
    · subst quoted
      rcases bind_eq_error failed with here | ⟨⟨name, unread⟩, readsKey, onward⟩
      · obtain ⟨fault, before, unread, rfl, shape, halts⟩ := of_readString_error here short
        exact Or.inl ⟨fault, before, unread, rfl, shape, KeyHalts.string halts⟩
      · obtain ⟨key, shape, one⟩ := of_readString readsKey
        obtain ⟨blanks, are, start⟩ := exists_blanks unread
        have colon (other : ∀ code ∈ (skipBlanks unread).head?, code ≠ ':') :
            ∃ before rest, CodePoint.quotationMark :: others = before ++ rest ∧
              rest = skipBlanks unread ∧ KeyHalts .expectedColon before rest := by
          refine ⟨key ++ blanks, skipBlanks unread, ?_, rfl, KeyHalts.colon one are
            fun code same => ⟨head_skipBlanks code same, other code same⟩⟩
          rw [shape, List.append_assoc, ← start]
        dsimp only at onward
        split at onward
        · rename_i code later next
          split_ifs at onward with isColon
          · subst isColon
            right
            rcases bind_eq_error onward with inner | ⟨⟨value, after⟩, _, done⟩
            · obtain ⟨before, areBefore, split⟩ := exists_blanks later
              refine ⟨key ++ blanks, name, before, _, ?_, (padded_self one).after are, areBefore,
                inner⟩
              rw [shape, start, next, ← split, List.append_assoc]
            · cases done
          · obtain ⟨before, rest, same, rfl, halts⟩ := colon fun first same => by
              rw [next] at same
              exact Option.some.inj same ▸ isColon
            rw [← next] at onward
            exact Or.inl ⟨_, before, _, (Except.error.inj onward).symm, same, halts⟩
        · rename_i next
          obtain ⟨before, rest, same, rfl, halts⟩ := colon fun first same => by
            rw [next] at same
            cases same
          rw [← next] at onward
          exact Or.inl ⟨_, before, _, (Except.error.inj onward).symm, same, halts⟩
    · refine Or.inl ⟨_, [], _, (Except.error.inj failed).symm, rfl,
        KeyHalts.key fun code same => ⟨starts code same, ?_⟩⟩
      exact Option.some.inj same ▸ quoted
  · exact Or.inl ⟨_, [], _, (Except.error.inj failed).symm, rfl, KeyHalts.key nofun⟩

/-! Values -/

theorem of_readValueWith_error (takes : Takes nested denotes) {text : Text}
    (failed : readValueWith policy limit nested text = .error halt)
    (short : text.length < limit) :
    (∃ front rest, text = front ++ rest ∧ Enters denotes front ∧ nested rest = .error halt) ∨
      ∃ here unread, text = here ++ unread ∧ Stalls policy denotes halt here unread := by
  unfold readValueWith at failed
  split at failed
  · rename_i code others
    obtain ⟨blanks, are, start⟩ := exists_blanks others
    have inside : (skipBlanks others).length < limit :=
      (List.length_dropWhile_le isBlank others).trans_lt (Nat.lt_of_succ_lt short)
    split_ifs at failed with quoted bracket brace
    · subst quoted
      rcases bind_eq_error failed with string | ⟨_, _, done⟩
      · obtain ⟨fault, before, unread, rfl, shape, halts⟩ := of_readString_error string short
        exact Or.inr ⟨before, unread, shape, Stalls.string halts⟩
      · cases done
    · subst bracket
      have inner : readItems nested limit [] (skipBlanks others) = .error halt := by
        split at failed
        · rename_i first unread next
          split_ifs at failed
          rwa [next]
        · rename_i next
          rwa [next]
      rw [readItems_eq] at inner
      obtain ⟨front, rest, shape, precedes, _, outcome⟩ :=
        of_readSeparated_error takes.padded admitsBlanks_padded inner inside head_skipBlanks
      have opened := precedes.before admitsBlanks_padded are
      rw [shape, ← List.append_assoc] at start
      rcases outcome with halts | ⟨part, item, unread, rfl, one, rfl⟩
      · exact Or.inl ⟨_, rest, congrArg _ start, opened.item, halts⟩
      · refine Or.inr ⟨_, unread, ?_, Stalls.item opened one⟩
        rw [start, List.cons_append, List.append_assoc _ part]
    · subst brace
      have inner : readMembers nested limit limit [] (skipBlanks others) = .error halt ∧
          ∀ code ∈ (skipBlanks others).head?, code ≠ '}' := by
        split at failed
        · rename_i first unread next
          split_ifs at failed with closed
          rw [next]
          exact ⟨failed, fun code same => Option.some.inj same ▸ closed⟩
        · rename_i next
          rw [next]
          exact ⟨failed, nofun⟩
      obtain ⟨inner, open_⟩ := inner
      rw [readMembers_eq] at inner
      obtain ⟨front, rest, shape, precedes, starts, outcome⟩ :=
        of_readSeparated_error (of_readMember takes) admitsBlanks_member inner inside
          head_skipBlanks
      have opened := precedes.before admitsBlanks_member are
      have lengths := congrArg List.length shape
      rw [List.length_append] at lengths
      rw [shape, ← List.append_assoc] at start
      rcases outcome with halts | ⟨part, member, unread, rfl, one, rfl⟩
      · rcases of_readMember_error halts (by omega) starts with
          ⟨fault, before, unread, rfl, rfl, missing⟩ |
            ⟨key, name, later, rest, rfl, named, areLater, inside⟩
        · refine Or.inr ⟨_, unread, ?_, Stalls.key opened missing (start ▸ open_)⟩
          rw [start, List.cons_append, List.append_assoc _ before]
        · refine Or.inl ⟨_, rest, ?_, opened.member named areLater, inside⟩
          rw [start]
          simp only [List.append_assoc, List.cons_append]
      · refine Or.inr ⟨_, unread, ?_, Stalls.member opened one⟩
        rw [start, List.cons_append, List.append_assoc _ part]
    · refine Or.inr ⟨[], code :: others, rfl, Stalls.scalar failed fun first same => ?_⟩
      exact Option.some.inj same ▸ ⟨quoted, bracket, brace⟩
  · exact Or.inr ⟨[], [], rfl, Stalls.scalar failed nofun⟩

/-- A reader that does not run out of its budget halts inside a value that it began to read. -/
theorem of_readValue_error : ∀ {budget : Nat} {text : Text},
    readValue policy limit budget text = .error halt → text.length < limit →
      halt = .refusal .tooDeep ∨
        ∃ outer here unread left, text = outer ++ (here ++ unread) ∧
          OpensWithin policy budget (left + 1) outer ∧
            Stalls policy (DerivesWithin policy left) halt here unread := by
  intro budget
  induction budget with
  | zero => exact fun failed _ => Or.inl (Except.error.inj failed).symm
  | succ budget ih =>
      intro text failed short
      rcases of_readValueWith_error (of_readValue budget) failed short with
        ⟨front, rest, rfl, enters, halts⟩ | ⟨here, unread, rfl, stalls⟩
      · rw [List.length_append] at short
        rcases ih halts (by omega) with deep | ⟨outer, here, unread, left, rfl, opened, stalls⟩
        · exact Or.inl deep
        · exact Or.inr ⟨front ++ outer, here, unread, left, (List.append_assoc _ _ _).symm,
            OpensWithin.inside enters opened, stalls⟩
      · exact Or.inr ⟨[], here, unread, budget, rfl, OpensWithin.value, stalls⟩

end Catalogue.Json

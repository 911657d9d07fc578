import Mathlib
import Catalogue.Json.Reader
import Catalogue.Proofs.Json.Members
import Catalogue.Proofs.Json.Scalars

/-!
The loop over the parts of arrays and objects. Items and members are read by one loop, which goes on
after a comma and stops at a bracket. It takes what the grammar has for parts with commas between
them, whatever the parts are and whatever is made of them.
-/

namespace Catalogue.Json

open Grammar

variable {α σ : Type} {readPart : Reader α} {spells : Text → α → Prop} {closing : CodePoint}
  {add : σ → α → σ} {finish : σ → Value} {limit : Nat}

def readSeparated (readPart : Reader α) (closing : CodePoint) (add : σ → α → σ)
    (finish : σ → Value) : Nat → σ → Reader Value
  | 0, _, _ => refuse .tooDeep
  | rounds + 1, read, text => do
    let (part, rest) ← readPart text
    match skipBlanks rest with
    | code :: rest =>
      if code = ',' then
        readSeparated readPart closing add finish rounds (add read part) (skipBlanks rest)
      else if code = closing then .ok (finish (add read part), rest)
      else faultAt .expectedComma (code :: rest)
    | [] => faultAt .expectedComma []

theorem readItems_eq (nested : Reader Value) (rounds : Nat) (read : List Value) (text : Text) :
    readItems nested rounds read text =
      readSeparated nested ']' (fun read item => item :: read) (fun read => .array read.reverse)
        rounds read text := by
  induction rounds generalizing read text with
  | zero => rfl
  | succ rounds ih =>
      rw [readItems, readSeparated]
      cases nested text with
      | error halt => rfl
      | ok result =>
          rw [bind_ok, bind_ok]
          dsimp only
          cases skipBlanks result.2 with
          | nil => rfl
          | cons code rest =>
              dsimp only
              rw [ih]

theorem readMembers_eq (nested : Reader Value) (limit rounds : Nat) (read : Members)
    (text : Text) :
    readMembers nested limit rounds read text =
      readSeparated (readMember nested limit) '}'
        (fun (read : Members) member => read.insert member.1 member.2) .object
        rounds read text := by
  induction rounds generalizing read text with
  | zero => rfl
  | succ rounds ih =>
      rw [readMembers, readSeparated]
      cases readMember nested limit text with
      | error halt => rfl
      | ok result =>
          rw [bind_ok, bind_ok]
          dsimp only
          cases skipBlanks result.2 with
          | nil => rfl
          | cons code rest =>
              dsimp only
              rw [ih]

/-- All that a reader takes from the front of a text denotes what it returns. -/
def Takes (reader : Reader α) (denotes : Text → α → Prop) : Prop :=
  ∀ {text rest item}, reader text = .ok (item, rest) →
    ∃ consumed, text = consumed ++ rest ∧ denotes consumed item

structure AdmitsBlanks (spells : Text → α → Prop) : Prop where
  before {blanks text : Text} {part : α} : AreBlanks blanks → spells text part →
    spells (blanks ++ text) part
  after {blanks text : Text} {part : α} : AreBlanks blanks → spells text part →
    spells (text ++ blanks) part

theorem Grammar.Separated.before (admits : AdmitsBlanks spells) {text blanks : Text}
    {parts : List α} (are : AreBlanks blanks) (spelled : Separated spells text parts) :
    Separated spells (blanks ++ text) parts := by
  cases spelled with
  | last one => exact Separated.last (admits.before are one)
  | more one rest =>
      rw [← List.append_assoc]
      exact Separated.more (admits.before are one) rest

theorem exists_skipBlanks {rest unread : Text} {code : CodePoint}
    (next : skipBlanks rest = code :: unread) :
    ∃ blanks, AreBlanks blanks ∧ rest = blanks ++ code :: unread := by
  obtain ⟨blanks, are, shape⟩ := exists_blanks rest
  exact ⟨blanks, are, next ▸ shape⟩

theorem of_readSeparated (takes : Takes readPart spells) (admits : AdmitsBlanks spells) :
    ∀ {rounds : Nat} {read : σ} {text rest : Text} {value : Value},
      readSeparated readPart closing add finish rounds read text = .ok (value, rest) →
        ∃ consumed parts, text = consumed ++ closing :: rest ∧
          Separated spells consumed parts ∧ value = finish (parts.foldl add read) := by
  intro rounds
  induction rounds with
  | zero => exact fun taken => absurd taken nofun
  | succ rounds ih =>
      intro read text rest value taken
      rw [readSeparated] at taken
      obtain ⟨⟨part, unread⟩, reads, onward⟩ := bind_eq_ok taken
      obtain ⟨consumed, rfl, one⟩ := takes reads
      dsimp only at onward
      split at onward
      · rename_i code others next
        obtain ⟨blanks, are, rfl⟩ := exists_skipBlanks next
        have padded := admits.after are one
        split_ifs at onward with comma closes
        · subst comma
          obtain ⟨later, parts, shape, separated, rfl⟩ := ih onward
          obtain ⟨before, areBefore, split⟩ := exists_blanks others
          refine ⟨_, part :: parts, ?_,
            Separated.more padded (separated.before admits areBefore), rfl⟩
          rw [split, shape]
          simp only [List.append_assoc, List.cons_append]
        · subst closes
          obtain ⟨rfl, rfl⟩ := Prod.mk.inj (Except.ok.inj onward)
          refine ⟨consumed ++ blanks, [part], ?_, Separated.last padded, rfl⟩
          rw [List.append_assoc]
        · exact absurd onward nofun
      · exact absurd onward nofun

/-! Completeness -/

def Delimits (code : CodePoint) : Prop := code = ',' ∨ code = ']' ∨ code = '}'

theorem Delimits.skipBlanks {code : CodePoint} (delimits : Delimits code) {blanks : Text}
    (are : AreBlanks blanks) (rest : Text) :
    skipBlanks (blanks ++ code :: rest) = code :: rest := by
  apply skipBlanks_append are
  rintro first same
  obtain rfl : code = first := by simpa using same
  rcases delimits with rfl | rfl | rfl <;> decide

def GivesPart (readPart : Reader α) (spells : Text → α → Prop) (limit : Nat) : Prop :=
  ∀ {text part code}, spells text part → text.length < limit → Delimits code → ∀ rest,
    ∃ unread, readPart (skipBlanks (text ++ code :: rest)) = .ok (part, unread) ∧
      skipBlanks unread = code :: rest

theorem readSeparated_separated (gives : GivesPart readPart spells limit)
    (delimits : Delimits closing) (notComma : closing ≠ ',') {text : Text} {parts : List α}
    (spelled : Separated spells text parts) (short : text.length < limit) (rest : Text) :
    ∀ {rounds : Nat} (read : σ), text.length < rounds →
      readSeparated readPart closing add finish rounds read
        (skipBlanks (text ++ closing :: rest)) = .ok (finish (parts.foldl add read), rest) := by
  induction spelled with
  | @last text part one =>
      intro rounds read enough
      obtain ⟨rounds, rfl⟩ := Nat.exists_eq_succ_of_ne_zero (Nat.ne_zero_of_lt enough)
      obtain ⟨unread, reads, next⟩ := gives one short delimits rest
      rw [readSeparated, reads, bind_ok]
      dsimp only
      rw [next]
      dsimp only
      rw [if_neg notComma, if_pos rfl]
      rfl
  | @more text later part parts one _ ih =>
      intro rounds read enough
      obtain ⟨rounds, rfl⟩ := Nat.exists_eq_succ_of_ne_zero (Nat.ne_zero_of_lt enough)
      simp only [List.length_append, List.length_cons] at short enough
      obtain ⟨unread, reads, next⟩ := gives one (by omega) (Or.inl rfl) (later ++ closing :: rest)
      have bound : later.length < rounds := by omega
      rw [List.append_assoc, List.cons_append, readSeparated, reads, bind_ok]
      dsimp only
      rw [next]
      dsimp only
      rw [if_pos rfl, ih (by omega) (add read part) bound]
      rfl

end Catalogue.Json

import Mathlib
import Catalogue.Proofs.Json.Depth
import Catalogue.Proofs.Json.Separated

/-!
Reading values. What the reader takes from a text with some budget is what the grammar derives
within that budget, and it takes all of a derived text that ends where a value may end.
-/

namespace Catalogue.Json

open Grammar

variable {policy : Policy} {denotes : Text → Value → Prop} {nested : Reader Value} {limit : Nat}

theorem Grammar.Padded.after {α : Type} {denotes : Text → α → Prop} {text blanks : Text} {item : α}
    (spelled : Padded denotes text item) (are : AreBlanks blanks) :
    Padded denotes (text ++ blanks) item := by
  cases spelled with
  | padded before one after =>
      rw [List.append_assoc]
      exact Padded.padded before one (after.append are)

theorem Grammar.Padded.before {α : Type} {denotes : Text → α → Prop} {text blanks : Text} {item : α}
    (spelled : Padded denotes text item) (are : AreBlanks blanks) :
    Padded denotes (blanks ++ text) item := by
  cases spelled with
  | padded before one after =>
      rw [← List.append_assoc, ← List.append_assoc]
      exact Padded.padded (are.append before) one after

theorem Grammar.padded_self {α : Type} {denotes : Text → α → Prop} {text : Text} {item : α}
    (one : denotes text item) : Padded denotes text item := by
  have spelled := Padded.padded areBlanks_nil one areBlanks_nil
  rwa [List.nil_append, List.append_nil] at spelled

theorem Grammar.Member.after {text blanks : Text} {member : Text × Value}
    (spelled : Member denotes text member) (are : AreBlanks blanks) :
    Member denotes (text ++ blanks) member := by
  cases spelled with
  | member key value =>
      rw [List.append_assoc, List.cons_append]
      exact Member.member key (value.after are)

theorem Grammar.Member.before {text blanks : Text} {member : Text × Value}
    (spelled : Member denotes text member) (are : AreBlanks blanks) :
    Member denotes (blanks ++ text) member := by
  cases spelled with
  | member key value =>
      rw [← List.append_assoc]
      exact Member.member (key.before are) value

theorem admitsBlanks_padded {α : Type} {denotes : Text → α → Prop} :
    AdmitsBlanks (Padded denotes) :=
  ⟨fun are spelled => spelled.before are, fun are spelled => spelled.after are⟩

theorem admitsBlanks_member : AdmitsBlanks (Member denotes) :=
  ⟨fun are spelled => spelled.before are, fun are spelled => spelled.after are⟩

theorem Takes.padded (takes : Takes nested denotes) : Takes nested (Padded denotes) := by
  intro text rest value taken
  obtain ⟨consumed, shape, one⟩ := takes taken
  exact ⟨consumed, shape, padded_self one⟩

theorem of_readMember (takes : Takes nested denotes) :
    Takes (readMember nested limit) (Member denotes) := by
  intro text rest member taken
  unfold readMember at taken
  split at taken
  · rename_i mark others
    split_ifs at taken with quoted
    · subst quoted
      obtain ⟨⟨key, unread⟩, readsKey, onward⟩ := bind_eq_ok taken
      obtain ⟨spelledKey, shape, one⟩ := of_readString readsKey
      dsimp only at onward
      split at onward
      · rename_i colon later next
        obtain ⟨blanks, are, rfl⟩ := exists_skipBlanks next
        split_ifs at onward with isColon
        · subst isColon
          obtain ⟨⟨value, after⟩, reads, done⟩ := bind_eq_ok onward
          obtain ⟨rfl, rfl⟩ := Prod.mk.inj (Except.ok.inj done)
          obtain ⟨consumed, split, valueSpelled⟩ := takes reads
          obtain ⟨before, areBefore, start⟩ := exists_blanks later
          refine ⟨_, ?_, Member.member ((padded_self one).after are)
            ((padded_self valueSpelled).before areBefore)⟩
          rw [shape, start, split]
          simp only [List.append_assoc, List.cons_append]
        · exact absurd onward nofun
      · exact absurd onward nofun
    · exact absurd taken nofun
  · exact absurd taken nofun

theorem of_readArray (takes : Takes nested denotes) {text rest : Text} {value : Value}
    (taken : readItems nested limit [] (skipBlanks text) = .ok (value, rest)) :
    ∃ consumed, text = consumed ++ CodePoint.ofChar ']' :: rest ∧
      Rule policy denotes (CodePoint.ofChar '[' :: (consumed ++ [CodePoint.ofChar ']'])) value := by
  rw [readItems_eq] at taken
  obtain ⟨consumed, items, shape, separated, rfl⟩ :=
    of_readSeparated takes.padded admitsBlanks_padded taken
  obtain ⟨blanks, are, start⟩ := exists_blanks text
  rw [List.foldl_flip_cons_eq_append', List.append_nil, List.reverse_reverse]
  refine ⟨blanks ++ consumed, ?_, Rule.array (separated.before admitsBlanks_padded are)⟩
  rw [start, shape, List.append_assoc]

theorem of_readObject (takes : Takes nested denotes) {text rest : Text} {value : Value}
    (taken : readMembers nested limit limit [] (skipBlanks text) = .ok (value, rest)) :
    ∃ consumed, text = consumed ++ CodePoint.ofChar '}' :: rest ∧
      Rule policy denotes (CodePoint.ofChar '{' :: (consumed ++ [CodePoint.ofChar '}'])) value := by
  rw [readMembers_eq] at taken
  obtain ⟨consumed, members, shape, separated, rfl⟩ :=
    of_readSeparated (of_readMember takes) admitsBlanks_member taken
  obtain ⟨blanks, are, start⟩ := exists_blanks text
  rw [← insertAll, insertAll_nil]
  refine ⟨blanks ++ consumed, ?_, Rule.object (separated.before admitsBlanks_member are)⟩
  rw [start, shape, List.append_assoc]

theorem of_readValueWith (takes : Takes nested denotes) :
    Takes (readValueWith policy limit nested) (Rule policy denotes) := by
  intro text rest value taken
  unfold readValueWith at taken
  split at taken
  · rename_i code others
    split_ifs at taken with quoted bracket brace
    · subst quoted
      obtain ⟨⟨string, unread⟩, reads, done⟩ := bind_eq_ok taken
      obtain ⟨rfl, rfl⟩ := Prod.mk.inj (Except.ok.inj done)
      obtain ⟨consumed, shape, spelled⟩ := of_readString reads
      exact ⟨consumed, shape, Rule.string spelled⟩
    · subst bracket
      split at taken
      · rename_i first unread next
        split_ifs at taken with closed
        · subst closed
          obtain ⟨blanks, are, rfl⟩ := exists_skipBlanks next
          obtain ⟨rfl, rfl⟩ := Prod.mk.inj (Except.ok.inj taken)
          exact ⟨_, by simp, Rule.emptyArray are⟩
        · rw [← next] at taken
          obtain ⟨consumed, rfl, spelled⟩ := of_readArray takes taken
          exact ⟨_, by simp, spelled⟩
      · rename_i next
        rw [← next] at taken
        obtain ⟨consumed, rfl, spelled⟩ := of_readArray takes taken
        exact ⟨_, by simp, spelled⟩
    · subst brace
      split at taken
      · rename_i first unread next
        split_ifs at taken with closed
        · subst closed
          obtain ⟨blanks, are, rfl⟩ := exists_skipBlanks next
          obtain ⟨rfl, rfl⟩ := Prod.mk.inj (Except.ok.inj taken)
          exact ⟨_, by simp, Rule.emptyObject are⟩
        · rw [← next] at taken
          obtain ⟨consumed, rfl, spelled⟩ := of_readObject takes taken
          exact ⟨_, by simp, spelled⟩
      · rename_i next
        rw [← next] at taken
        obtain ⟨consumed, rfl, spelled⟩ := of_readObject takes taken
        exact ⟨_, by simp, spelled⟩
    · obtain ⟨consumed, shape, spelled⟩ := of_readScalar taken
      exact ⟨consumed, shape, Rule.scalar spelled⟩
  · obtain ⟨consumed, shape, spelled⟩ := of_readScalar taken
    exact ⟨consumed, shape, Rule.scalar spelled⟩

theorem of_readValue (budget : Nat) :
    Takes (readValue policy limit budget) (DerivesWithin policy budget) := by
  induction budget with
  | zero => exact fun taken => absurd taken nofun
  | succ budget ih => exact fun taken => of_readValueWith ih taken

def Begins (text : Text) : Prop :=
  ∃ first rest, text = first :: rest ∧ isBlank first = false ∧ first ≠ ']' ∧ first ≠ '}'

theorem Begins.append {text : Text} (begins : Begins text) (rest : Text) :
    Begins (text ++ rest) := by
  obtain ⟨first, others, rfl, opening⟩ := begins
  exact ⟨first, others ++ rest, rfl, opening⟩

theorem Begins.skipBlanks {blanks text : Text} (begins : Begins text) (are : AreBlanks blanks) :
    skipBlanks (blanks ++ text) = text := by
  apply skipBlanks_append are
  obtain ⟨first, others, rfl, solid, _⟩ := begins
  rintro code same
  obtain rfl : first = code := by simpa using same
  exact solid

theorem Grammar.Quoted.begins {text string : Text} (spelled : Quoted text string) :
    Begins text := by
  cases spelled with
  | quoted => exact ⟨_, _, rfl, by decide, by decide, by decide⟩

theorem Grammar.Rule.begins {text : Text} {value : Value}
    (spelled : Rule policy denotes text value) : Begins text := by
  cases spelled with
  | string one => exact one.begins
  | emptyArray | array | emptyObject | object =>
      exact ⟨_, _, rfl, by decide, by decide, by decide⟩
  | scalar one =>
      obtain ⟨first, others, rfl, solid, outside⟩ := one.begins
      simp only [brackets, List.mem_cons, List.not_mem_nil, or_false, not_or] at outside
      exact ⟨first, others, rfl, solid, outside.2.2.1, outside.2.2.2.2⟩

theorem Grammar.DerivesWithin.begins {budget : Nat} {text : Text} {value : Value}
    (within : DerivesWithin policy budget text value) : Begins text := by
  cases budget with
  | zero => exact within.elim
  | succ budget => exact Rule.begins within

/-! Completeness -/

/-- A reader returns what a short text denotes, if the text ends where a value may end. -/
structure Gives (reader : Reader Value) (denotes : Text → Value → Prop) (limit : Nat) : Prop where
  begins {text : Text} {value : Value} : denotes text value → Begins text
  reads {text rest : Text} {value : Value} : denotes text value → text.length < limit →
    Ends rest → reader (text ++ rest) = .ok (value, rest)

theorem Gives.padded (gives : Gives nested denotes limit) :
    GivesPart nested (Padded denotes) limit := by
  intro text value code spelled short delimits rest
  cases spelled with
  | @padded before inside after _ areBefore one areAfter =>
      refine ⟨after ++ code :: rest, ?_, delimits.skipBlanks areAfter rest⟩
      rw [List.append_assoc, List.append_assoc,
        ((gives.begins one).append (after ++ code :: rest)).skipBlanks areBefore]
      refine gives.reads one ?_ ((ends_cons delimits).append areAfter)
      simp only [List.length_append] at short
      omega

theorem readMember_quoted {key name : Text} (spelled : Quoted key name)
    (short : key.length < limit) {rest later : Text}
    (next : skipBlanks rest = CodePoint.ofChar ':' :: later) :
    readMember nested limit (key ++ rest) =
      (nested (skipBlanks later) >>= fun (value, rest) => .ok ((name, value), rest)) := by
  have reads := readString_quoted spelled short rest
  cases spelled with
  | quoted =>
      rw [List.cons_append] at reads ⊢
      rw [readMember, if_pos rfl, reads, bind_ok]
      dsimp only
      rw [next]
      dsimp only
      rw [if_pos rfl]

theorem Gives.member (gives : Gives nested denotes limit) :
    GivesPart (readMember nested limit) (Member denotes) limit := by
  intro text member code spelled short delimits rest
  cases spelled with
  | @member key text name value spelledKey spelledValue =>
      cases spelledKey with
      | @padded before inside after _ areBefore one areAfter =>
          simp only [List.length_append, List.length_cons] at short
          obtain ⟨unread, reads, next⟩ := gives.padded spelledValue (by omega) delimits rest
          have colon : Catalogue.Json.skipBlanks
              (after ++ CodePoint.ofChar ':' :: (text ++ code :: rest)) =
                CodePoint.ofChar ':' :: (text ++ code :: rest) := by
            apply skipBlanks_append areAfter
            rintro first same
            obtain rfl : CodePoint.ofChar ':' = first := by simpa using same
            decide
          refine ⟨unread, ?_, next⟩
          simp only [List.append_assoc, List.cons_append]
          rw [(one.begins.append _).skipBlanks areBefore,
            readMember_quoted one (by omega) colon, reads]
          rfl

theorem readItems_separated (gives : Gives nested denotes limit) {text : Text}
    {items : List Value} (spelled : Separated (Padded denotes) text items)
    (short : text.length < limit) (rest : Text) :
    readItems nested limit [] (skipBlanks (text ++ CodePoint.ofChar ']' :: rest)) =
      .ok (.array items, rest) := by
  have closing : Delimits (CodePoint.ofChar ']') := Or.inr (Or.inl rfl)
  rw [readItems_eq, readSeparated_separated gives.padded closing (by decide) spelled short rest []
    short, List.foldl_flip_cons_eq_append', List.append_nil, List.reverse_reverse]

theorem readMembers_separated (gives : Gives nested denotes limit) {text : Text}
    {members : Members} (spelled : Separated (Member denotes) text members)
    (short : text.length < limit) (rest : Text) :
    readMembers nested limit limit [] (skipBlanks (text ++ CodePoint.ofChar '}' :: rest)) =
      .ok (.object (merged members), rest) := by
  have closing : Delimits (CodePoint.ofChar '}') := Or.inr (Or.inr rfl)
  rw [readMembers_eq, readSeparated_separated gives.member closing (by decide) spelled short rest
    [] short, ← insertAll, insertAll_nil]

theorem Grammar.Separated.begins {α : Type} {denotes : Text → α → Prop} {text : Text}
    {items : List α} (spelled : Separated denotes text items)
    (each : ∀ {text item}, denotes text item → ∀ rest, Begins (skipBlanks (text ++ rest)))
    (rest : Text) : Begins (skipBlanks (text ++ rest)) := by
  cases spelled with
  | last one => exact each one rest
  | more one _ =>
      rw [List.append_assoc]
      exact each one _

theorem Grammar.Padded.begins {α : Type} {denotes : Text → α → Prop} {text : Text} {item : α}
    (each : ∀ {text item}, denotes text item → Begins text) (spelled : Padded denotes text item)
    (rest : Text) : Begins (skipBlanks (text ++ rest)) := by
  cases spelled with
  | @padded _ inside after _ areBefore one _ =>
      have begins := (each one).append (after ++ rest)
      rw [List.append_assoc, List.append_assoc, begins.skipBlanks areBefore]
      exact begins

theorem Grammar.Member.begins {text : Text} {member : Text × Value}
    (spelled : Member denotes text member) (rest : Text) :
    Begins (skipBlanks (text ++ rest)) := by
  cases spelled with
  | member key _ =>
      rw [List.append_assoc]
      exact key.begins (fun one => one.begins) _

theorem readValueWith_rule (gives : Gives nested denotes limit) {text rest : Text} {value : Value}
    (spelled : Rule policy denotes text value) (short : text.length < limit) (ends : Ends rest) :
    readValueWith policy limit nested (text ++ rest) = .ok (value, rest) := by
  cases spelled with
  | scalar one =>
      have reads := readScalar_scalar one ends.stops
      obtain ⟨first, others, rfl, solid, outside⟩ := one.begins
      simp only [brackets, List.mem_cons, List.not_mem_nil, or_false, not_or] at outside
      rw [List.cons_append] at reads ⊢
      rw [readValueWith, if_neg outside.1, if_neg outside.2.1, if_neg outside.2.2.2.1, reads]
  | string one =>
      have reads := readString_quoted one short rest
      cases one with
      | quoted =>
          rw [List.cons_append] at reads ⊢
          rw [readValueWith, if_pos rfl, reads]
          rfl
  | @emptyArray blanks are =>
      have next := Delimits.skipBlanks (Or.inr (Or.inl rfl)) are rest
      rw [List.cons_append, List.append_assoc, List.singleton_append, readValueWith,
        if_neg (by decide), if_pos rfl, next]
      exact if_pos rfl
  | @emptyObject blanks are =>
      have next := Delimits.skipBlanks (Or.inr (Or.inr rfl)) are rest
      rw [List.cons_append, List.append_assoc, List.singleton_append, readValueWith,
        if_neg (by decide), if_neg (by decide), if_pos rfl, next]
      exact if_pos rfl
  | @array text items separated =>
      simp only [List.length_append, List.length_cons] at short
      obtain ⟨first, others, next, _, open_, _⟩ :=
        separated.begins (fun one => one.begins gives.begins) (CodePoint.ofChar ']' :: rest)
      have reads := readItems_separated gives separated (by omega) rest
      rw [List.cons_append, List.append_assoc, List.singleton_append, readValueWith,
        if_neg (by decide), if_pos rfl]
      rw [next] at reads ⊢
      dsimp only
      rw [if_neg open_, reads]
  | @object text members separated =>
      simp only [List.length_append, List.length_cons] at short
      obtain ⟨first, others, next, _, _, open_⟩ :=
        separated.begins (fun one => one.begins) (CodePoint.ofChar '}' :: rest)
      have reads := readMembers_separated gives separated (by omega) rest
      rw [List.cons_append, List.append_assoc, List.singleton_append, readValueWith,
        if_neg (by decide), if_neg (by decide), if_pos rfl]
      rw [next] at reads ⊢
      dsimp only
      rw [if_neg open_, reads]

theorem readValue_gives (limit budget : Nat) :
    Gives (readValue policy limit budget) (DerivesWithin policy budget) limit := by
  induction budget with
  | zero => exact ⟨False.elim, fun within => within.elim⟩
  | succ budget ih =>
      exact ⟨DerivesWithin.begins, fun within short ends => readValueWith_rule ih within short ends⟩

theorem readDocument_iff {text : Text} {value : Value} :
    readDocument policy text = .ok value ↔
      Padded (DerivesWithin policy depthLimit) text value := by
  constructor
  · intro done
    obtain ⟨⟨found, unread⟩, reads, last⟩ := bind_eq_ok done
    obtain ⟨consumed, shape, within⟩ := of_readValue depthLimit reads
    obtain ⟨before, areBefore, start⟩ := exists_blanks text
    obtain ⟨after, areAfter, finish⟩ := exists_blanks unread
    dsimp only at last
    split at last
    · rename_i nothing
      obtain rfl := Except.ok.inj last
      rw [nothing, List.append_nil] at finish
      rw [start, shape, finish, ← List.append_assoc]
      exact Padded.padded areBefore within areAfter
    · exact absurd last nofun
  · intro spelled
    cases spelled with
    | @padded before inside after _ areBefore within areAfter =>
        have short : inside.length < (before ++ inside ++ after).length + 1 := by
          simp only [List.length_append]
          omega
        have ends : Ends after := by
          have ends := ends_nil.append areAfter
          rwa [List.append_nil] at ends
        have next : skipBlanks after = [] := by
          have skipped : skipBlanks (after ++ []) = [] := skipBlanks_append areAfter (by simp)
          rwa [List.append_nil] at skipped
        have reads := (readValue_gives _ depthLimit).reads within short ends
        have begins := within.begins.append after
        rw [readDocument, List.append_assoc, begins.skipBlanks areBefore, ← List.append_assoc,
          reads, bind_ok]
        dsimp only
        rw [next]

theorem read_iff {text : Text} {value : Value} :
    Json.read policy text = .ok value ↔ Padded (DerivesWithin policy depthLimit) text value := by
  rw [← readDocument_iff, Json.read]
  cases readDocument policy text with
  | error _ => exact iff_of_false nofun nofun
  | ok _ => rw [Except.mapError, Except.ok.injEq, Except.ok.injEq]

theorem readDocument_marked (rest : Text) :
    readDocument policy (CodePoint.byteOrderMark :: rest) =
      faultAt .expectedValue (CodePoint.byteOrderMark :: rest) := rfl

theorem readUnmarked_eq_read {text : Text}
    (unmarked : ∀ rest, text ≠ CodePoint.byteOrderMark :: rest) :
    readUnmarked policy text = Json.read policy text := by
  cases text with
  | nil => rfl
  | cons code rest =>
      refine if_neg ?_
      rintro rfl
      exact unmarked rest rfl

theorem readUnmarked_of_read {text : Text} {value : Value}
    (reads : Json.read policy text = .ok value) : readUnmarked policy text = .ok value := by
  rw [readUnmarked_eq_read, reads]
  rintro rest rfl
  rw [Json.read, readDocument_marked] at reads
  exact absurd reads nofun

end Catalogue.Json

import Mathlib
import Catalogue.Proofs.Json.Budget

/-!
Places where a value is read. Before such a place stand arrays and objects that are still open, each
with the parts that were read of it. A reader that halts at the value there halts on the whole text,
and with a value there the whole text can be completed.
-/

namespace Catalogue.Json

open Grammar

namespace Grammar

inductive Leading {α : Type} (denotes : Text → α → Prop) : Text → Prop
  | none : Leading denotes []
  | more {text rest : Text} {item : α} : denotes text item → Leading denotes rest →
      Leading denotes (text ++ CodePoint.ofChar ',' :: rest)

inductive Enters (denotes : Text → Value → Prop) : Text → Prop
  | item {parts blanks : Text} : Leading (Padded denotes) parts → AreBlanks blanks →
      Enters denotes (CodePoint.ofChar '[' :: (parts ++ blanks))
  | member {parts key name blanks : Text} : Leading (Member denotes) parts →
      Padded Quoted key name → AreBlanks blanks →
      Enters denotes
        (CodePoint.ofChar '{' :: (parts ++ (key ++ CodePoint.ofChar ':' :: blanks)))

/-- What may stand before a value: the fronts of arrays and objects, one inside another. -/
inductive Opens (policy : Policy) : Text → Prop
  | value : Opens policy []
  | inside {front rest : Text} : Enters (Derives policy) front → Opens policy rest →
      Opens policy (front ++ rest)

inductive OpensWithin (policy : Policy) : Nat → Nat → Text → Prop
  | value {budget : Nat} : OpensWithin policy budget budget []
  | inside {budget left : Nat} {front rest : Text} : Enters (DerivesWithin policy budget) front →
      OpensWithin policy budget left rest → OpensWithin policy (budget + 1) left (front ++ rest)

section

variable {α : Type} {first second denotes : Text → α → Prop} {parts text : Text}

theorem Leading.imp {holds : Text → Prop}
    (apart : ∀ {text rest item}, first text item →
      holds (text ++ CodePoint.ofChar ',' :: rest) → holds text ∧ holds rest)
    (each : ∀ {text item}, holds text → first text item → second text item) {rest : Text}
    (leading : Leading first parts) : holds (parts ++ rest) → Leading second parts := by
  induction leading with
  | none => exact fun _ => Leading.none
  | more one _ ih =>
      intro held
      rw [List.append_assoc, List.cons_append] at held
      obtain ⟨here, later⟩ := apart one held
      exact Leading.more (each here one) (ih later)

theorem Leading.separated (leading : Leading denotes parts) {items : List α}
    (spelled : Separated denotes text items) : ∃ all, Separated denotes (parts ++ text) all := by
  induction leading with
  | none => exact ⟨items, spelled⟩
  | @more here rest item one _ ih =>
      obtain ⟨all, separated⟩ := ih
      rw [List.append_assoc, List.cons_append]
      exact ⟨item :: all, Separated.more one separated⟩

theorem Leading.isBalanced (each : ∀ {text item}, denotes text item → text.IsBalanced)
    (leading : Leading denotes parts) : parts.IsBalanced := by
  induction leading with
  | none => exact Text.isBalanced_nil
  | more one _ ih => exact (each one).append (balanced_cons ',' (by decide) ih)

end

variable {denotes denotes' : Text → Value → Prop} {front rest : Text}

theorem Enters.imp {holds : Text → Prop} (descends : Descends denotes holds)
    (each : ∀ {text value}, holds text → denotes text value → denotes' text value)
    (held : ∀ {code inside}, front = code :: inside → holds inside)
    (enters : Enters denotes front) : Enters denotes' front := by
  cases enters with
  | item leading are =>
      refine Enters.item (leading.imp descends.item (fun held one => ?_) (held rfl)) are
      exact one.imp descends each held
  | member leading key are =>
      refine Enters.member (leading.imp descends.member (fun held one => ?_) (held rfl)) key are
      exact one.imp descends each held

theorem Enters.deepest (each : ∀ {text value}, denotes text value → text.IsBalanced)
    (enters : Enters denotes front) (level : Nat) (rest : Text) :
    Scan.deepest ⟨.outside, level + 1⟩ rest ≤ Scan.deepest ⟨.outside, level⟩ (front ++ rest) := by
  cases enters with
  | item leading are =>
      have balanced := (leading.isBalanced fun one => one.isBalanced each).append are.isBalanced
      exact (deepest_suffix balanced le_rfl).trans (le_max_right _ _)
  | member leading key are =>
      have named := (key.isBalanced fun one => one.isBalanced).append
        (balanced_cons ':' (by decide) are.isBalanced)
      have balanced := (leading.isBalanced fun one => one.isBalanced each).append named
      exact (deepest_suffix balanced le_rfl).trans (le_max_right _ _)

theorem Enters.deepest_inside (enters : Enters denotes front) (level : Nat) {code : CodePoint}
    {inside : Text} (shape : front = code :: inside) :
    Scan.deepest ⟨.outside, level + 1⟩ inside ≤ Scan.deepest ⟨.outside, level⟩ front := by
  cases enters with
  | item | member =>
      obtain ⟨rfl, rfl⟩ := List.cons.inj shape
      exact le_max_right _ _

theorem Enters.begins (enters : Enters denotes front) (rest : Text) : Begins (front ++ rest) := by
  cases enters with
  | item | member => exact ⟨_, _, rfl, by decide, by decide, by decide⟩

variable {policy other : Policy} {budget left limit : Nat} {before : Text}

theorem Derives.isBalanced {text : Text} {value : Value} (derives : Derives policy text value) :
    text.IsBalanced := by
  obtain ⟨_, within⟩ := derives_iff.mp derives
  exact within.isBalanced

theorem Opens.imp
    (each : ∀ {text value}, Derives policy text value → Derives other text value)
    (opens : Opens policy before) : Opens other before := by
  induction opens with
  | value => exact Opens.value
  | inside enters _ ih =>
      exact Opens.inside (enters.imp descends_true (fun _ => each) fun _ => trivial) ih

theorem OpensWithin.opens (within : OpensWithin policy budget left before) :
    Opens policy before := by
  induction within with
  | value => exact Opens.value
  | inside enters _ ih =>
      refine Opens.inside (enters.imp descends_true ?_ fun _ => trivial) ih
      exact fun _ => DerivesWithin.derives

theorem OpensWithin.deepest (within : OpensWithin policy budget left before) (level : Nat)
    (rest : Text) : level + budget ≤ Scan.deepest ⟨.outside, level⟩ (before ++ rest) + left := by
  induction within generalizing level with
  | value => exact Nat.add_le_add_right (Scan.level_le_deepest ⟨.outside, level⟩ _) _
  | inside enters _ ih =>
      have deeper := enters.deepest DerivesWithin.isBalanced level
      rw [List.append_assoc]
      exact (le_of_eq_of_le (by omega) (ih (level + 1))).trans
        (Nat.add_le_add_right (deeper _) _)

/-- A text that nests no deeper than a budget allows leaves some of it for a value. -/
theorem Opens.within (opens : Opens policy before) {level depth : Nat}
    (bound : Scan.deepest ⟨.outside, level⟩ before ≤ level + depth) :
    ∃ left, OpensWithin policy (depth + 1) (left + 1) before := by
  induction opens generalizing level depth with
  | value => exact ⟨depth, OpensWithin.value⟩
  | @inside front rest enters _ ih =>
      have later := (enters.deepest Derives.isBalanced level rest).trans bound
      have opened := (Scan.level_le_deepest ⟨.outside, level + 1⟩ rest).trans later
      dsimp only at opened
      obtain ⟨depth, rfl⟩ : ∃ less, depth = less + 1 := ⟨depth - 1, by omega⟩
      obtain ⟨left, within⟩ := @ih (level + 1) depth (by omega)
      refine ⟨left, OpensWithin.inside (enters.imp (descends_deepest (level + 1)
        (level + 1 + depth) Derives.isBalanced) (fun held derives => ?_) fun shape => ?_) within⟩
      · obtain ⟨_, within⟩ := derives_iff.mp derives
        exact within.of_deepest held
      · have here := (Scan.deepest_append_left ⟨.outside, level⟩ front rest).trans bound
        exact (enters.deepest_inside level shape).trans (le_of_le_of_eq here (by omega))

end Grammar

/-! Halting at a value -/

variable {α σ : Type} {readPart : Reader α} {spells : Text → α → Prop} {closing : CodePoint}
  {add : σ → α → σ} {finish : σ → Value} {policy : Policy} {nested : Reader Value}
  {denotes : Text → Value → Prop} {limit budget left : Nat} {before rest text : Text}

theorem readSeparated_leading (gives : GivesPart readPart spells limit) {parts : Text}
    (leading : Leading spells parts) (short : parts.length < limit) (rest : Text) :
    ∀ {rounds : Nat} (read : σ), parts.length + rest.length < rounds →
      ∃ more others, rest.length < more ∧
        readSeparated readPart closing add finish rounds read (skipBlanks (parts ++ rest)) =
          readSeparated readPart closing add finish more others (skipBlanks rest) := by
  induction leading with
  | none => exact fun {rounds} read enough => ⟨rounds, read, by simpa using enough, rfl⟩
  | @more text later part one _ ih =>
      intro rounds read enough
      obtain ⟨rounds, rfl⟩ := Nat.exists_eq_succ_of_ne_zero (Nat.ne_zero_of_lt enough)
      simp only [List.length_append, List.length_cons] at short enough
      obtain ⟨unread, reads, next⟩ := gives one (by omega) (Or.inl rfl) (later ++ rest)
      obtain ⟨more, others, bound, same⟩ :=
        ih (by omega) (add read part) (show later.length + rest.length < rounds by omega)
      refine ⟨more, others, bound, ?_⟩
      rw [List.append_assoc, List.cons_append, readSeparated, reads, bind_ok]
      dsimp only
      rw [next]
      dsimp only
      rw [if_pos rfl, same]

theorem readSeparated_error {halt : Halt} (halts : readPart (skipBlanks rest) = .error halt)
    {rounds : Nat} (read : σ) (enough : rest.length < rounds) :
    readSeparated readPart closing add finish rounds read (skipBlanks rest) = .error halt := by
  obtain ⟨rounds, rfl⟩ := Nat.exists_eq_succ_of_ne_zero (Nat.ne_zero_of_lt enough)
  rw [readSeparated, halts]
  rfl

theorem readSeparated_halts (gives : GivesPart readPart spells limit) {parts : Text}
    (leading : Leading spells parts) {halt : Halt}
    (halts : readPart (skipBlanks rest) = .error halt) (short : (parts ++ rest).length < limit)
    (read : σ) :
    readSeparated readPart closing add finish limit read (skipBlanks (parts ++ rest)) =
      .error halt := by
  rw [List.length_append] at short
  obtain ⟨more, others, bound, same⟩ :=
    readSeparated_leading gives leading (by omega) rest read short
  rw [same, readSeparated_error halts others bound]

theorem readValueWith_array (begins : Begins (skipBlanks text)) :
    readValueWith policy limit nested (CodePoint.ofChar '[' :: text) =
      readItems nested limit [] (skipBlanks text) := by
  obtain ⟨first, others, next, _, open_, _⟩ := begins
  rw [readValueWith, if_neg (by decide), if_pos rfl, next]
  exact if_neg open_

theorem readValueWith_object (open_ : ∀ code ∈ (skipBlanks text).head?, code ≠ '}') :
    readValueWith policy limit nested (CodePoint.ofChar '{' :: text) =
      readMembers nested limit limit [] (skipBlanks text) := by
  rw [readValueWith, if_neg (by decide), if_neg (by decide), if_pos rfl]
  cases next : skipBlanks text with
  | nil => rfl
  | cons first others =>
      rw [next] at open_
      exact if_neg (open_ first rfl)

theorem Grammar.Leading.begins {parts : Text} (leading : Leading spells parts)
    (each : ∀ {text item}, spells text item → ∀ rest, Begins (skipBlanks (text ++ rest)))
    (begins : Begins (skipBlanks rest)) : Begins (skipBlanks (parts ++ rest)) := by
  cases leading with
  | none => exact begins
  | more one _ =>
      rw [List.append_assoc]
      exact each one _

theorem Grammar.Enters.halts (gives : Gives nested denotes limit) {front : Text}
    (enters : Enters denotes front) (begins : Begins rest) (short : (front ++ rest).length < limit)
    {halt : Halt} (halts : nested rest = .error halt) :
    readValueWith policy limit nested (front ++ rest) = .error halt := by
  cases enters with
  | @item parts blanks leading are =>
      have skipped := begins.skipBlanks are
      have inner : nested (skipBlanks (blanks ++ rest)) = .error halt := by rwa [skipped]
      have opening : Begins (skipBlanks (parts ++ (blanks ++ rest))) :=
        leading.begins (fun one => one.begins gives.begins) (by rwa [skipped])
      rw [List.cons_append, List.append_assoc] at short ⊢
      rw [readValueWith_array opening, readItems_eq]
      exact readSeparated_halts gives.padded leading inner (Nat.lt_of_succ_lt short) []
  | @member parts key name blanks leading named are =>
      cases named with
      | @padded space quoted after _ areBefore one areAfter =>
          have colon : skipBlanks (after ++ CodePoint.ofChar ':' :: (blanks ++ rest)) =
              CodePoint.ofChar ':' :: (blanks ++ rest) :=
            skipBlanks_append areAfter fun code same => Option.some.inj same ▸ rfl
          have start := (one.begins.append
            (after ++ CodePoint.ofChar ':' :: (blanks ++ rest))).skipBlanks areBefore
          simp only [List.cons_append, List.append_assoc, List.length_cons, List.length_append]
            at short ⊢
          have inner : readMember nested limit (skipBlanks (space ++ (quoted ++
              (after ++ CodePoint.ofChar ':' :: (blanks ++ rest))))) = .error halt := by
            rw [start, readMember_quoted one (by omega) colon, begins.skipBlanks are, halts]
            rfl
          have opening : Begins (skipBlanks (parts ++ (space ++ (quoted ++
              (after ++ CodePoint.ofChar ':' :: (blanks ++ rest)))))) := by
            refine leading.begins (fun one => one.begins) ?_
            rw [start]
            exact one.begins.append _
          obtain ⟨first, others, next, _, _, open_⟩ := opening
          rw [readValueWith_object fun code same => by
            rw [next] at same
            exact Option.some.inj same ▸ open_, readMembers_eq]
          refine readSeparated_halts gives.member leading inner ?_ []
          simp only [List.length_append, List.length_cons]
          omega

theorem Grammar.OpensWithin.begins (within : OpensWithin policy budget left before)
    (begins : Begins rest) : Begins (before ++ rest) := by
  cases within with
  | value => exact begins
  | inside enters _ =>
      rw [List.append_assoc]
      exact enters.begins _

theorem Grammar.OpensWithin.halts (within : OpensWithin policy budget left before)
    (begins : Begins rest) (short : (before ++ rest).length < limit) {halt : Halt}
    (halts : readValue policy limit left rest = .error halt) :
    readValue policy limit budget (before ++ rest) = .error halt := by
  induction within with
  | value => exact halts
  | @inside budget left front later enters opened ih =>
      rw [List.append_assoc] at short ⊢
      have inner : (later ++ rest).length < limit := by
        rw [List.length_append] at short
        omega
      exact enters.halts (readValue_gives limit budget) (opened.begins begins) short
        (ih inner halts)

theorem readDocument_halts {blanks : Text} (are : AreBlanks blanks)
    (opened : OpensWithin policy depthLimit left before) (begins : Begins rest) {halt : Halt}
    (halts : ∀ limit, (before ++ rest).length < limit →
      readValue policy limit left rest = .error halt) :
    readDocument policy (blanks ++ (before ++ rest)) = .error halt := by
  have short : (before ++ rest).length < (blanks ++ (before ++ rest)).length + 1 := by
    rw [@List.length_append _ blanks]
    omega
  have failed := opened.halts begins short (halts _ short)
  rw [readDocument, (opened.begins begins).skipBlanks are, failed]
  rfl

theorem Grammar.Enters.completes {front : Text} (enters : Enters denotes front) {value : Value}
    (derives : denotes text value) :
    ∃ ending whole, Rule policy denotes (front ++ (text ++ ending)) whole := by
  cases enters with
  | @item parts blanks leading are =>
      obtain ⟨items, separated⟩ :=
        leading.separated (Separated.last ((padded_self derives).before are))
      refine ⟨[CodePoint.ofChar ']'], .array items, ?_⟩
      have rule : Rule policy denotes _ _ := Rule.array separated
      simpa only [List.cons_append, List.append_assoc] using rule
  | @member parts key name blanks leading named are =>
      obtain ⟨members, separated⟩ := leading.separated
        (Separated.last (Member.member named ((padded_self derives).before are)))
      refine ⟨[CodePoint.ofChar '}'], .object (merged members), ?_⟩
      have rule : Rule policy denotes _ _ := Rule.object separated
      simpa only [List.cons_append, List.append_assoc] using rule

/-- A value at a place can be completed to a value of the whole. -/
theorem Grammar.OpensWithin.completes (within : OpensWithin policy budget left before)
    {value : Value} (derives : DerivesWithin policy left text value) :
    ∃ ending whole, DerivesWithin policy budget (before ++ (text ++ ending)) whole := by
  induction within with
  | value => exact ⟨[], value, by rwa [List.nil_append, List.append_nil]⟩
  | @inside budget left front later enters _ ih =>
      obtain ⟨ending, inner, derivesInner⟩ := ih derives
      obtain ⟨closing, whole, rule⟩ : ∃ closing whole, Rule policy (DerivesWithin policy budget)
          (front ++ (later ++ (text ++ ending) ++ closing)) whole := enters.completes derivesInner
      refine ⟨ending ++ closing, whole, ?_⟩
      simp only [List.append_assoc] at rule ⊢
      exact rule

end Catalogue.Json

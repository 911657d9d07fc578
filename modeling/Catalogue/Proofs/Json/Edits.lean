import Mathlib
import Catalogue.Proofs.Json.Parts
import Catalogue.Proofs.Json.Reading

/-!
Edits of texts. A text falls into the parts of an array or an object in one way only, since the
reader takes each part without a look at what follows. An edit of parts is therefore an edit of what
the parts derive, within the same depth and wherever in the text the parts stand.
-/

namespace Catalogue.Json

open Grammar

def BeginsSolid (text : Text) : Prop := ∀ code ∈ text.head?, isBlank code = false

theorem beginsSolid_cons {first : CodePoint} (solid : isBlank first = false) (rest : Text) :
    BeginsSolid (first :: rest) := by
  intro code same
  obtain rfl := Option.some.inj same
  exact solid

theorem Begins.solid {text : Text} (begins : Begins text) (rest : Text) :
    BeginsSolid (text ++ rest) := by
  obtain ⟨first, others, rfl, solid, _⟩ := begins
  exact beginsSolid_cons solid (others ++ rest)

namespace Grammar

variable {policy : Policy} {text whole rest unread : Text}

theorem Derives.unique {value other : Value} (derives : Derives policy text value)
    (derivesOther : Derives policy whole other) (ends : Ends rest) (endsOther : Ends unread)
    (same : text ++ rest = whole ++ unread) : text = whole ∧ value = other ∧ rest = unread := by
  obtain ⟨budget, within⟩ := derives_iff.mp derives
  obtain ⟨budgetOther, withinOther⟩ := derives_iff.mp derivesOther
  have gives : Gives (readValue policy (text.length + whole.length + 1) (max budget budgetOther))
      (DerivesWithin policy (max budget budgetOther)) (text.length + whole.length + 1) :=
    readValue_gives _ _
  have reads := gives.reads (within.mono (le_max_left _ _)) (by omega) ends
  have readsOther := gives.reads (withinOther.mono (le_max_right _ _)) (by omega) endsOther
  rw [same, readsOther] at reads
  obtain ⟨rfl, rfl⟩ := Prod.mk.inj (Except.ok.inj reads)
  exact ⟨List.append_cancel_right same, rfl, rfl⟩

theorem Quoted.unique {string other : Text} (quoted : Quoted text string)
    (quotedOther : Quoted whole other) (same : text ++ rest = whole ++ unread) :
    text = whole ∧ string = other ∧ rest = unread := by
  have reads : readString (text.length + whole.length + 1) (text ++ rest) = .ok (string, rest) :=
    readString_quoted quoted (by omega) rest
  have readsOther : readString (text.length + whole.length + 1) (whole ++ unread) =
      .ok (other, unread) := readString_quoted quotedOther (by omega) unread
  rw [same, readsOther] at reads
  obtain ⟨rfl, rfl⟩ := Prod.mk.inj (Except.ok.inj reads)
  exact ⟨List.append_cancel_right same, rfl, rfl⟩

theorem AreBlanks.unique {blanks others : Text} (are : AreBlanks blanks)
    (areOthers : AreBlanks others) (solid : BeginsSolid rest) (solidOther : BeginsSolid unread)
    (same : blanks ++ rest = others ++ unread) : blanks = others ∧ rest = unread := by
  have skipped := skipBlanks_append are solid
  rw [same, skipBlanks_append areOthers solidOther] at skipped
  subst skipped
  exact ⟨List.append_cancel_right same, rfl⟩

/-- A text that goes on after a part of an array or an object: nothing, or a comma and more. -/
def IsCut (text : Text) : Prop := ∀ code ∈ text.head?, code = ','

theorem isCut_nil : IsCut [] := by
  simp [IsCut]

theorem isCut_comma (text : Text) : IsCut (CodePoint.ofChar ',' :: text) := by
  simp [IsCut, eq_comm]

theorem IsCut.ends (cut : IsCut text) : Ends text :=
  fun code first => Or.inr (Or.inl (cut code first))

theorem IsCut.solid (cut : IsCut text) : BeginsSolid text := by
  intro code first
  rw [cut code first]
  decide

end Grammar

abbrev Edit := Text → Text → Prop

def Revised (edit : Edit) : Edit := fun text changed =>
  (∃ value, Derives .strict text value) ∧ (changed = text ∨ edit text changed)

inductive PaddedEdit (edit : Edit) : Edit
  | padded {before text changed after : Text} : AreBlanks before → Revised edit text changed →
      AreBlanks after → PaddedEdit edit (before ++ text ++ after) (before ++ changed ++ after)

theorem paddedEdit_self {edit : Edit} {text changed : Text} (revised : Revised edit text changed) :
    PaddedEdit edit text changed := by
  have edited := PaddedEdit.padded areBlanks_nil revised areBlanks_nil
  rwa [List.nil_append, List.append_nil, List.nil_append, List.append_nil] at edited

inductive SeparatedEdit (edit : Edit) : Edit
  | last {text changed : Text} : edit text changed → SeparatedEdit edit text changed
  | more {text changed rest others : Text} : edit text changed → SeparatedEdit edit rest others →
      SeparatedEdit edit (text ++ CodePoint.ofChar ',' :: rest)
        (changed ++ CodePoint.ofChar ',' :: others)

inductive MemberEdit (edits : Text → Edit) : Edit
  | member {key name text changed : Text} : Padded Quoted key name →
      PaddedEdit (edits name) text changed →
      MemberEdit edits (key ++ CodePoint.ofChar ':' :: text)
        (key ++ CodePoint.ofChar ':' :: changed)

inductive ArrayEdit (edit : Edit) : Edit
  | array {text changed : Text} : SeparatedEdit (PaddedEdit edit) text changed →
      ArrayEdit edit (CodePoint.ofChar '[' :: (text ++ [CodePoint.ofChar ']']))
        (CodePoint.ofChar '[' :: (changed ++ [CodePoint.ofChar ']']))

inductive ObjectEdit (edits : Text → Edit) : Edit
  | object {text changed : Text} : SeparatedEdit (MemberEdit edits) text changed →
      ObjectEdit edits (CodePoint.ofChar '{' :: (text ++ [CodePoint.ofChar '}']))
        (CodePoint.ofChar '{' :: (changed ++ [CodePoint.ofChar '}']))

/-! What edits do to values -/

/-- What is derived from the edited text is related to what was derived before, and no deeper. -/
def Carries (edit : Edit) (relates : Value → Value → Prop) : Prop :=
  ∀ {budget : Nat} {text changed : Text} {value : Value}, edit text changed →
    DerivesWithin .strict budget text value →
      ∃ other, DerivesWithin .strict budget changed other ∧ relates value other

def CarriesPart {α : Type} (edit : Edit) (spells : Text → α → Prop) (relates : α → α → Prop) :
    Prop :=
  ∀ {text changed whole rest unread : Text} {part : α}, edit text changed → spells whole part →
    IsCut rest → IsCut unread → text ++ rest = whole ++ unread →
      text = whole ∧ rest = unread ∧ ∃ other, spells changed other ∧ relates part other

variable {edit : Edit} {relates : Value → Value → Prop} {budget : Nat}

theorem Carries.padded (carries : Carries edit relates) :
    CarriesPart (PaddedEdit edit) (Padded (DerivesWithin .strict budget))
      fun value other => other = value ∨ relates value other := by
  intro text changed whole rest unread value edited spelled cut cutOther same
  cases edited with
  | @padded before inside inner after areBefore revised areAfter =>
      obtain ⟨⟨source, derives⟩, choice⟩ := revised
      cases spelled with
      | @padded front found back _ areFront within areBack =>
          simp only [List.append_assoc] at same
          have begins : Begins inside := by
            obtain ⟨depth, deep⟩ := derives_iff.mp derives
            exact deep.begins
          obtain ⟨rfl, values⟩ :=
            areBefore.unique areFront (begins.solid _) (within.begins.solid _) same
          obtain ⟨rfl, rfl, ending⟩ := derives.unique within.derives (cut.ends.append areAfter)
            (cutOther.ends.append areBack) values
          obtain ⟨rfl, rfl⟩ := areAfter.unique areBack cut.solid cutOther.solid ending
          refine ⟨rfl, rfl, ?_⟩
          rcases choice with rfl | edited
          · exact ⟨source, Padded.padded areBefore within areAfter, Or.inl rfl⟩
          · obtain ⟨other, withinOther, related⟩ := carries edited within
            exact ⟨other, Padded.padded areBefore withinOther areAfter, Or.inr related⟩

theorem Carries.member {edits : Text → Edit} (carries : ∀ name, Carries (edits name) relates) :
    CarriesPart (MemberEdit edits) (Member (DerivesWithin .strict budget))
      fun member other => other.1 = member.1 ∧
        (other.2 = member.2 ∨ relates member.2 other.2) := by
  intro text changed whole rest unread member edited spelled cut cutOther same
  cases edited with
  | @member key name inside inner keyed edited =>
      cases spelled with
      | @member found back other value keyedOther padded =>
          cases keyed with
          | @padded before quoted after _ areBefore one areAfter =>
              cases keyedOther with
              | @padded front quotedOther behind _ areFront another areBehind =>
                  have colon (text : Text) : BeginsSolid (CodePoint.ofChar ':' :: text) :=
                    beginsSolid_cons rfl text
                  simp only [List.append_assoc, List.cons_append] at same
                  obtain ⟨rfl, keys⟩ :=
                    areBefore.unique areFront (one.begins.solid _) (another.begins.solid _) same
                  obtain ⟨rfl, rfl, ending⟩ := one.unique another keys
                  obtain ⟨rfl, values⟩ := areAfter.unique areBehind (colon _) (colon _) ending
                  obtain ⟨rfl, rfl, value, spelled, related⟩ := Carries.padded (carries name)
                    edited padded cut cutOther (List.cons.inj values).2
                  exact ⟨rfl, rfl, (name, value),
                    Member.member (Padded.padded areBefore one areAfter) spelled, rfl, related⟩

theorem CarriesPart.separated {α : Type} {spells : Text → α → Prop} {relates : α → α → Prop}
    (carries : CarriesPart edit spells relates) {text changed : Text} {parts : List α}
    (edited : SeparatedEdit edit text changed) (spelled : Separated spells text parts) :
    ∃ others, Separated spells changed others ∧ List.Forall₂ relates parts others := by
  induction edited generalizing parts with
  | @last text changed one =>
      cases spelled with
      | @last _ part here =>
          obtain ⟨_, _, other, spelled, related⟩ := carries one here isCut_nil isCut_nil rfl
          exact ⟨[other], Separated.last spelled, List.Forall₂.cons related List.Forall₂.nil⟩
      | @more first later part parts here _ =>
          have whole := carries one here isCut_nil (isCut_comma later) (List.append_nil _)
          exact absurd whole.2.1 nofun
  | @more text changed rest others one _ ih =>
      generalize shape : text ++ CodePoint.ofChar ',' :: rest = whole at spelled
      cases spelled with
      | @last _ part here =>
          have first := carries one here (isCut_comma rest) isCut_nil
            (shape.trans (List.append_nil _).symm)
          exact absurd first.2.1 nofun
      | @more first later part parts here separated =>
          obtain ⟨_, same, other, spelled, related⟩ :=
            carries one here (isCut_comma rest) (isCut_comma later) shape
          obtain rfl := (List.cons.inj same).2
          obtain ⟨found, separatedOther, all⟩ := ih separated
          exact ⟨other :: found, Separated.more spelled separatedOther,
            List.Forall₂.cons related all⟩

section

variable {policy : Policy} {denotes : Text → Value → Prop} {inside : Text} {value : Value}

theorem Grammar.Scalar.not_opening {rest : Text} {code : CodePoint} (bracket : code ∈ brackets) :
    ¬ Scalar policy (code :: rest) value := by
  intro spelled
  obtain ⟨first, others, shape, _, outside⟩ := spelled.begins
  rw [(List.cons.inj shape).1] at bracket
  exact outside bracket

theorem Grammar.Rule.of_array
    (spelled : Rule policy denotes (CodePoint.ofChar '[' :: (inside ++ [CodePoint.ofChar ']']))
      value) :
    AreBlanks inside ∧ value = .array [] ∨
      ∃ items, Separated (Padded denotes) inside items ∧ value = .array items := by
  generalize shape : CodePoint.ofChar '[' :: (inside ++ [CodePoint.ofChar ']']) = text at spelled
  cases spelled with
  | scalar one =>
      rw [← shape] at one
      exact absurd one (Scalar.not_opening (by decide))
  | string one =>
      cases one
      exact absurd (List.cons.inj shape).1 (by decide)
  | emptyArray are =>
      obtain rfl := List.append_cancel_right (List.cons.inj shape).2
      exact Or.inl ⟨are, rfl⟩
  | array separated =>
      obtain rfl := List.append_cancel_right (List.cons.inj shape).2
      exact Or.inr ⟨_, separated, rfl⟩
  | emptyObject | object => exact absurd (List.cons.inj shape).1 (by decide)

theorem Grammar.Rule.of_object
    (spelled : Rule policy denotes (CodePoint.ofChar '{' :: (inside ++ [CodePoint.ofChar '}']))
      value) :
    AreBlanks inside ∧ value = .object [] ∨
      ∃ members, Separated (Member denotes) inside members ∧ value = .object (merged members) := by
  generalize shape : CodePoint.ofChar '{' :: (inside ++ [CodePoint.ofChar '}']) = text at spelled
  cases spelled with
  | scalar one =>
      rw [← shape] at one
      exact absurd one (Scalar.not_opening (by decide))
  | string one =>
      cases one
      exact absurd (List.cons.inj shape).1 (by decide)
  | emptyObject are =>
      obtain rfl := List.append_cancel_right (List.cons.inj shape).2
      exact Or.inl ⟨are, rfl⟩
  | object separated =>
      obtain rfl := List.append_cancel_right (List.cons.inj shape).2
      exact Or.inr ⟨_, separated, rfl⟩
  | emptyArray | array => exact absurd (List.cons.inj shape).1 (by decide)

end

theorem SeparatedEdit.not_areBlanks (each : ∀ {text changed}, edit text changed → ¬ AreBlanks text)
    {text changed : Text} (edited : SeparatedEdit edit text changed) : ¬ AreBlanks text := by
  intro are
  cases edited with
  | last one => exact each one are
  | more one _ =>
      exact each one fun code member => are code (List.mem_append_left _ member)

theorem PaddedEdit.not_areBlanks {text changed : Text} (edited : PaddedEdit edit text changed) :
    ¬ AreBlanks text := by
  intro are
  cases edited with
  | padded _ revised _ =>
      obtain ⟨⟨value, derives⟩, _⟩ := revised
      obtain ⟨budget, within⟩ := derives_iff.mp derives
      obtain ⟨first, others, rfl, solid, _⟩ := within.begins
      have blank := isBlank_iff.mpr (are first (by simp))
      rw [solid] at blank
      exact absurd blank Bool.false_ne_true

theorem MemberEdit.not_areBlanks {edits : Text → Edit} {text changed : Text}
    (edited : MemberEdit edits text changed) : ¬ AreBlanks text := by
  intro are
  cases edited with
  | member _ _ => exact absurd (are ':' (by simp)) (by decide)

theorem Carries.array (carries : Carries edit relates) :
    Carries (ArrayEdit edit) fun value other => ∃ items others,
      value = .array items ∧ other = .array others ∧
        List.Forall₂ (fun item other => other = item ∨ relates item other) items others := by
  intro budget text changed value edited within
  cases budget with
  | zero => exact within.elim
  | succ budget =>
      cases edited with
      | array edited =>
          have spelled : Rule .strict (DerivesWithin .strict budget) _ value := within
          rcases spelled.of_array with ⟨are, _⟩ | ⟨items, separated, rfl⟩
          · exact absurd are (edited.not_areBlanks PaddedEdit.not_areBlanks)
          · obtain ⟨others, spelled, related⟩ :=
              CarriesPart.separated (Carries.padded carries) edited separated
            exact ⟨.array others, Rule.array spelled, items, others, rfl, rfl, related⟩

theorem get_of_forall₂ {members others : Members} (related : List.Forall₂ (fun member other =>
      other.1 = member.1 ∧ (other.2 = member.2 ∨ relates member.2 other.2)) members others)
    (key : Text) : Value.get others key = Value.get members key ∨
      relates (Value.get members key) (Value.get others key) := by
  induction related with
  | nil => exact Or.inl rfl
  | @cons member other members others one _ ih =>
      obtain ⟨name, value⟩ := member
      obtain ⟨nameOther, valueOther⟩ := other
      obtain ⟨rfl, values⟩ := one
      rw [Value.get, Value.get, Members.find?, Members.find?]
      by_cases here : nameOther = key
      · rw [if_pos here, if_pos here]
        exact values
      · rw [if_neg here, if_neg here]
        exact ih

theorem Carries.object {edits : Text → Edit} (carries : ∀ name, Carries (edits name) relates) :
    Carries (ObjectEdit edits) fun value other => ∃ members others,
      value = .object members ∧ other = .object others ∧ ∀ key,
        Value.get others key = Value.get members key ∨
          relates (Value.get members key) (Value.get others key) := by
  intro budget text changed value edited within
  cases budget with
  | zero => exact within.elim
  | succ budget =>
      cases edited with
      | object edited =>
          have spelled : Rule .strict (DerivesWithin .strict budget) _ value := within
          rcases spelled.of_object with ⟨are, _⟩ | ⟨members, separated, rfl⟩
          · exact absurd are (edited.not_areBlanks MemberEdit.not_areBlanks)
          · obtain ⟨others, spelled, related⟩ :=
              CarriesPart.separated (Carries.member carries) edited separated
            refine ⟨.object (merged others), Rule.object spelled, _, _, rfl, rfl, fun key => ?_⟩
            rw [get_merged, get_merged]
            exact get_of_forall₂ (List.rel_reverse related) key

end Catalogue.Json

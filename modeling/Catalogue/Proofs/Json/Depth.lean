import Mathlib
import Catalogue.Proofs.Json.Members

/-!
Derivations of limited depth. Every derivation has a depth, since each rule takes its parts from
inside the text, so that a text derives a value just when it does so within some depth.
-/

namespace Catalogue.Json.Grammar

variable {policy : Policy} {denotes denotes' : Text → Value → Prop}

structure Descends (denotes : Text → Value → Prop) (holds : Text → Prop) : Prop where
  unpad {before text after : Text} : AreBlanks before → AreBlanks after →
    holds (before ++ text ++ after) → holds text
  unkey {key name text : Text} : Padded Quoted key name →
    holds (key ++ CodePoint.ofChar ':' :: text) → holds text
  item {text rest : Text} {value : Value} : Padded denotes text value →
    holds (text ++ CodePoint.ofChar ',' :: rest) → holds text ∧ holds rest
  member {text rest : Text} {member : Text × Value} : Member denotes text member →
    holds (text ++ CodePoint.ofChar ',' :: rest) → holds text ∧ holds rest

section

variable {α : Type} {holds : Text → Prop}

theorem Separated.imp {first second : Text → α → Prop} {text : Text} {items : List α}
    (apart : ∀ {text rest item}, first text item →
      holds (text ++ CodePoint.ofChar ',' :: rest) → holds text ∧ holds rest)
    (each : ∀ {text item}, holds text → first text item → second text item)
    (spelled : Separated first text items) : holds text → Separated second text items := by
  induction spelled with
  | last one => exact fun held => Separated.last (each held one)
  | more one _ ih =>
      intro held
      obtain ⟨here, later⟩ := apart one held
      exact Separated.more (each here one) (ih later)

variable (descends : Descends denotes holds)
  (each : ∀ {text value}, holds text → denotes text value → denotes' text value)

include descends each

theorem Padded.imp {text : Text} {value : Value} (held : holds text)
    (spelled : Padded denotes text value) : Padded denotes' text value := by
  cases spelled with
  | padded before one after =>
      exact Padded.padded before (each (descends.unpad before after held) one) after

theorem Member.imp {text : Text} {member : Text × Value} (held : holds text)
    (spelled : Member denotes text member) : Member denotes' text member := by
  cases spelled with
  | member key value =>
      exact Member.member key (Padded.imp descends each (descends.unkey key held) value)

theorem Rule.imp {text : Text} {value : Value}
    (opened : ∀ inside, text = CodePoint.ofChar '[' :: (inside ++ [CodePoint.ofChar ']']) ∨
      text = CodePoint.ofChar '{' :: (inside ++ [CodePoint.ofChar '}']) → holds inside)
    (spelled : Rule policy denotes text value) : Rule policy denotes' text value := by
  cases spelled with
  | scalar one => exact Rule.scalar one
  | string one => exact Rule.string one
  | emptyArray blanks => exact Rule.emptyArray blanks
  | emptyObject blanks => exact Rule.emptyObject blanks
  | array items =>
      exact Rule.array (Separated.imp descends.item (Padded.imp descends each) items
        (opened _ (Or.inl rfl)))
  | object members =>
      exact Rule.object (Separated.imp descends.member (Member.imp descends each) members
        (opened _ (Or.inr rfl)))

end

theorem descends_true : Descends denotes fun _ => True :=
  ⟨fun _ _ _ => trivial, fun _ _ => trivial, fun _ _ => ⟨trivial, trivial⟩,
    fun _ _ => ⟨trivial, trivial⟩⟩

theorem descends_length (bound : Nat) : Descends denotes fun text => text.length < bound := by
  constructor <;> intros <;> simp only [List.length_append, List.length_cons] at * <;> omega

/-- Derivations in which fewer than `budget` arrays and objects stand one in another. -/
def DerivesWithin (policy : Policy) : Nat → Text → Value → Prop
  | 0 => fun _ _ => False
  | budget + 1 => Rule policy (DerivesWithin policy budget)

theorem DerivesWithin.derives {budget : Nat} {text : Text} {value : Value}
    (within : DerivesWithin policy budget text value) : Derives policy text value := by
  induction budget generalizing text value with
  | zero => exact within.elim
  | succ budget ih =>
      exact Derives.rule (Rule.imp descends_true (fun _ => ih) (fun _ _ => trivial) within)

theorem Derives.within {bound : Nat} {text : Text} {value : Value}
    (derives : Derives policy text value) (short : text.length < bound) :
    DerivesWithin policy bound text value := by
  induction bound generalizing text value with
  | zero => exact absurd short (Nat.not_lt_zero _)
  | succ bound ih =>
      cases derives with
      | rule spelled =>
          refine Rule.imp (descends_length bound) (fun inner part => ih part inner) ?_ spelled
          rintro inside (rfl | rfl)
          · simp only [List.length_cons, List.length_append] at short
            omega
          · simp only [List.length_cons, List.length_append] at short
            omega

theorem DerivesWithin.mono {budget greater : Nat} {text : Text} {value : Value}
    (within : DerivesWithin policy budget text value) (more : budget ≤ greater) :
    DerivesWithin policy greater text value := by
  induction budget generalizing greater text value with
  | zero => exact within.elim
  | succ budget ih =>
      obtain ⟨greater, rfl⟩ := Nat.exists_eq_add_of_lt (Nat.lt_of_succ_le more)
      refine Rule.imp descends_true (fun _ inner => ih inner ?_) (fun _ _ => trivial) within
      omega

/-! What a strict reader admits, a lenient one admits too -/

theorem Scalar.lenient {text : Text} {value : Value} (spelled : Scalar policy text value) :
    Scalar .lenient text value := by
  cases spelled with
  | null => exact Scalar.null
  | true => exact Scalar.true
  | false => exact Scalar.false
  | integer whole few => exact Scalar.integer whole few
  | double spelled rounds _ => exact Scalar.double spelled rounds nofun
  | constant _ member => exact Scalar.constant rfl member

theorem Rule.lenient {text : Text} {value : Value} (spelled : Rule policy denotes text value) :
    Rule .lenient denotes text value := by
  cases spelled with
  | scalar one => exact Rule.scalar one.lenient
  | string one => exact Rule.string one
  | emptyArray blanks => exact Rule.emptyArray blanks
  | array items => exact Rule.array items
  | emptyObject blanks => exact Rule.emptyObject blanks
  | object members => exact Rule.object members

theorem DerivesWithin.lenient {budget : Nat} {text : Text} {value : Value}
    (within : DerivesWithin policy budget text value) :
    DerivesWithin .lenient budget text value := by
  induction budget generalizing text value with
  | zero => exact within.elim
  | succ budget ih =>
      have rule : Rule policy (DerivesWithin policy budget) text value := within
      exact Rule.imp descends_true (fun _ inner => ih inner) (fun _ _ => trivial) rule.lenient

theorem derives_iff {text : Text} {value : Value} :
    Derives policy text value ↔ ∃ budget, DerivesWithin policy budget text value :=
  ⟨fun derives => ⟨text.length + 1, derives.within (Nat.lt_succ_self _)⟩,
    fun ⟨_, within⟩ => within.derives⟩

theorem Derives.lenient {text : Text} {value : Value} (derives : Derives policy text value) :
    Derives .lenient text value := by
  obtain ⟨_, within⟩ := derives_iff.mp derives
  exact within.lenient.derives

end Catalogue.Json.Grammar

import Mathlib
import Catalogue.Proofs.Json.Separated

/-!
The strict reader beside the lenient one. They go on in step from token to token, with the same
values and the same faults, until the strict one refuses a token that the lenient one admits.
-/

namespace Catalogue.Json

def Refusal.IsStrict (refusal : Refusal) : Prop :=
  (∃ token, refusal = .constant token) ∨ ∃ token, refusal = .outOfRange token

/-- Two outcomes are the same, unless the first is a refusal that only a strict reader has. -/
def Concedes {α : Type} (first second : Except Halt α) : Prop :=
  first = second ∨ ∃ refusal : Refusal, refusal.IsStrict ∧ first = .error (.refusal refusal)

section

variable {α β : Type}

theorem concedes_same (outcome : Except Halt α) : Concedes outcome outcome := Or.inl rfl

theorem Concedes.bind {first second : Except Halt α} {next next' : α → Except Halt β}
    (outcomes : Concedes first second) (onward : ∀ value, Concedes (next value) (next' value)) :
    Concedes (first >>= next) (second >>= next') := by
  rcases outcomes with rfl | ⟨refusal, strict, rfl⟩
  · cases first with
    | error halt => exact concedes_same _
    | ok value => exact onward value
  · exact Or.inr ⟨refusal, strict, rfl⟩

theorem Concedes.map {first second : Except Halt α} (outcomes : Concedes first second)
    (use : α → β) : Concedes (first.map use) (second.map use) := by
  rcases outcomes with rfl | ⟨refusal, strict, rfl⟩
  · exact concedes_same _
  · exact Or.inr ⟨refusal, strict, rfl⟩

end

theorem NumberToken.value_concedes (token : NumberToken) :
    Concedes (token.value .strict) (token.value .lenient) := by
  unfold NumberToken.value
  split_ifs
  · exact concedes_same _
  · exact concedes_same _
  · cases token.toDouble with
    | finite number => exact concedes_same _
    | infinite | nan => exact Or.inr ⟨_, Or.inr ⟨_, rfl⟩, rfl⟩

theorem readScalar_concedes (text : Text) :
    Concedes (readScalar .strict text) (readScalar .lenient text) := by
  unfold readScalar
  split
  · exact concedes_same _
  · exact Or.inr ⟨_, Or.inl ⟨_, rfl⟩, rfl⟩
  · split
    · exact concedes_same _
    · exact (NumberToken.value_concedes _).map _

section

variable {α σ : Type} {readPart readPart' : Reader α} {closing : CodePoint} {add : σ → α → σ}
  {finish : σ → Value} {nested nested' : Reader Value}

theorem readSeparated_concedes (each : ∀ text, Concedes (readPart text) (readPart' text))
    (rounds : Nat) (read : σ) (text : Text) :
    Concedes (readSeparated readPart closing add finish rounds read text)
      (readSeparated readPart' closing add finish rounds read text) := by
  induction rounds generalizing read text with
  | zero => exact concedes_same _
  | succ rounds ih =>
      refine (each text).bind fun result => ?_
      dsimp only
      split
      · split_ifs
        · exact ih _ _
        · exact concedes_same _
        · exact concedes_same _
      · exact concedes_same _

theorem readMember_concedes (each : ∀ text, Concedes (nested text) (nested' text)) (limit : Nat)
    (text : Text) : Concedes (readMember nested limit text) (readMember nested' limit text) := by
  unfold readMember
  split
  · split_ifs
    · refine (concedes_same _).bind fun result => ?_
      dsimp only
      split
      · split_ifs
        · exact (each _).bind fun _ => concedes_same _
        · exact concedes_same _
      · exact concedes_same _
    · exact concedes_same _
  · exact concedes_same _

theorem readItems_concedes (each : ∀ text, Concedes (nested text) (nested' text)) (limit : Nat)
    (text : Text) : Concedes (readItems nested limit [] text) (readItems nested' limit [] text) := by
  rw [readItems_eq, readItems_eq]
  exact readSeparated_concedes each _ _ _

theorem readMembers_concedes (each : ∀ text, Concedes (nested text) (nested' text))
    (limit : Nat) (text : Text) :
    Concedes (readMembers nested limit limit [] text)
      (readMembers nested' limit limit [] text) := by
  rw [readMembers_eq, readMembers_eq]
  exact readSeparated_concedes (readMember_concedes each limit) _ _ _

theorem readValueWith_concedes (each : ∀ text, Concedes (nested text) (nested' text))
    (limit : Nat) (text : Text) :
    Concedes (readValueWith .strict limit nested text)
      (readValueWith .lenient limit nested' text) := by
  unfold readValueWith
  split
  · split_ifs
    · exact concedes_same _
    · split
      · split_ifs
        · exact concedes_same _
        · exact readItems_concedes each limit _
      · exact readItems_concedes each limit _
    · split
      · split_ifs
        · exact concedes_same _
        · exact readMembers_concedes each limit _
      · exact readMembers_concedes each limit _
    · exact readScalar_concedes _
  · exact readScalar_concedes _

end

theorem readValue_concedes (limit budget : Nat) (text : Text) :
    Concedes (readValue .strict limit budget text) (readValue .lenient limit budget text) := by
  induction budget generalizing text with
  | zero => exact concedes_same _
  | succ budget ih => exact readValueWith_concedes ih limit text

theorem readDocument_concedes (text : Text) :
    Concedes (readDocument .strict text) (readDocument .lenient text) := by
  refine (readValue_concedes _ _ _).bind fun result => ?_
  dsimp only
  split <;> exact concedes_same _

end Catalogue.Json

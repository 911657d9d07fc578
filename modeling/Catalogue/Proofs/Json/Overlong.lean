import Mathlib
import Catalogue.Proofs.Json.Offences

/-!
Whole numbers with more digits than are admitted. Beside nesting they are all that a lenient reader
refuses, and it refuses the first that it comes to.
-/

namespace Catalogue.Json

open Grammar

/-- A whole number with so many digits, which are too many, stands at the front of a text. -/
inductive Overlong : Text → Nat → Prop
  | number {token : NumberToken} {text rest : Text} :
      NumberToken.read? text = some (token, rest) → token.isInteger = true →
      digitLimit < token.whole.length → Overlong text token.whole.length

inductive ReachesOverlong : Text → Nat → Prop
  | after {blanks inside rest : Text} {count left : Nat} : AreBlanks blanks →
      OpensWithin .lenient depthLimit (left + 1) inside → Overlong rest count →
      ReachesOverlong (blanks ++ (inside ++ rest)) count

variable {text : Text} {count : Nat} {cause : Refusal} {policy : Policy}

theorem Overlong.of_whole {whole rest : Text} (isWhole : Whole whole)
    (many : digitLimit < whole.length) (stops : Stops rest) :
    Overlong (whole ++ rest) whole.length := by
  have read := NumberToken.read?_spelled false isWhole Fraction.absent Power.absent stops
  rw [List.append_nil, List.append_nil] at read
  exact Overlong.number read rfl many

theorem Overlong.begins (overlong : Overlong text count) :
    ∃ first rest, text = first :: rest ∧ OpensScalar first := by
  cases overlong with
  | number read _ _ => exact NumberToken.begins_of_read? read

theorem Overlong.readScalar (overlong : Overlong text count) :
    readScalar policy text = .error (.refusal (.tooManyDigits count)) := by
  cases overlong with
  | number read isInteger many =>
      rw [readScalar_of_read? read, NumberToken.value.eq_def, if_pos isInteger, if_pos many]
      rfl

theorem of_readScalar_lenient (failed : readScalar .lenient text = .error (.refusal cause)) :
    ∃ count, cause = .tooManyDigits count ∧ Overlong text count := by
  rcases of_readScalar_error failed with same | ⟨strict, _⟩ | ⟨token, rest, read, refused⟩
  · cases same
  · cases strict
  · rcases NumberToken.of_value_error refused with ⟨isInteger, many, same⟩ | ⟨strict, _⟩
    · exact ⟨_, Halt.refusal.inj same, Overlong.number read isInteger many⟩
    · cases strict

theorem read_eq_error_refusal_iff : Json.read policy text = .error (.refusal cause) ↔
    readDocument policy text = .error (.refusal cause) := by
  rw [Json.read]
  cases readDocument policy text with
  | ok value => simp [Except.mapError]
  | error halt => cases halt <;> simp [Except.mapError, Halt.failure]

theorem of_read_lenient (failed : Json.read .lenient text = .error (.refusal cause)) :
    cause = .tooDeep ∨ ∃ count, cause = .tooManyDigits count ∧ ReachesOverlong text count := by
  rw [read_eq_error_refusal_iff] at failed
  rcases of_readDocument_refusal failed with deep | ⟨blanks, outer, rest, left, rfl, are, opened,
    refuses⟩
  · exact Or.inl deep
  · obtain ⟨count, rfl, overlong⟩ := of_readScalar_lenient refuses
    exact Or.inr ⟨count, rfl, ReachesOverlong.after are opened overlong⟩

theorem ReachesOverlong.read (reaches : ReachesOverlong text count) :
    Json.read .lenient text = .error (.refusal (.tooManyDigits count)) := by
  rw [read_eq_error_refusal_iff]
  cases reaches with
  | after are opened overlong =>
      obtain ⟨first, others, rfl, opens⟩ := overlong.begins
      exact readDocument_opensScalar are opened opens overlong.readScalar

theorem read_tooDeep {blanks before rest : Text} (are : AreBlanks blanks)
    (opened : OpensWithin policy depthLimit 0 before) (begins : Begins rest) :
    Json.read policy (blanks ++ (before ++ rest)) = .error (.refusal .tooDeep) :=
  read_eq_error_refusal_iff.mpr (readDocument_halts are opened begins fun _ _ => rfl)

theorem opensWithin_brackets (budget : Nat) :
    OpensWithin policy budget 0 (List.replicate budget (CodePoint.ofChar '[')) := by
  induction budget with
  | zero => exact OpensWithin.value
  | succ budget ih =>
      have enters : Enters (DerivesWithin policy budget) [CodePoint.ofChar '['] :=
        Enters.item Leading.none areBlanks_nil
      exact OpensWithin.inside enters ih

/-! Bodies -/

theorem readUnmarked_eq_error_refusal_iff : readUnmarked policy text = .error (.refusal cause) ↔
    Json.read policy text = .error (.refusal cause) := by
  by_cases marked : ∃ rest, text = CodePoint.byteOrderMark :: rest
  · obtain ⟨rest, rfl⟩ := marked
    have fault := @readDocument_marked policy rest
    rw [Json.read, fault]
    simp [readUnmarked, faultAt, Except.mapError, Halt.failure]
  · rw [readUnmarked_eq_read fun rest same => marked ⟨rest, same⟩]

theorem isIn_of_readUnmarked {fault : Fault} {position : Position}
    (failed : readUnmarked policy text = .error (.fault fault position)) :
    position.IsIn text := by
  by_cases marked : ∃ rest, text = CodePoint.byteOrderMark :: rest
  · obtain ⟨rest, rfl⟩ := marked
    obtain ⟨_, rfl⟩ := Failure.fault.inj (Except.error.inj failed)
    exact Position.after_isIn [] (CodePoint.byteOrderMark :: rest)
  · rw [readUnmarked_eq_read fun rest same => marked ⟨rest, same⟩] at failed
    obtain ⟨before, unread, rfl, rfl, _⟩ := of_read_fault failed
    exact Position.after_isIn before unread

theorem padded_of_readUnmarked {value : Value} (done : readUnmarked policy text = .ok value) :
    Padded (Derives policy) text value := by
  by_cases marked : ∃ rest, text = CodePoint.byteOrderMark :: rest
  · obtain ⟨rest, rfl⟩ := marked
    cases done
  · rw [readUnmarked_eq_read fun rest same => marked ⟨rest, same⟩, read_iff] at done
    exact Padded.imp descends_true (fun _ => DerivesWithin.derives) trivial done

theorem readUnmarked_iff_document (shallow : text.nesting < depthLimit) {value : Value} :
    readUnmarked policy text = .ok value ↔ Grammar.Document policy text value :=
  ⟨padded_of_readUnmarked,
    fun derives => readUnmarked_of_read ((read_iff_document shallow).mpr derives)⟩

theorem not_padded_of_read {failure : Failure} (failed : Json.read policy text = .error failure)
    (short : text.length < depthLimit) (value : Value) : ¬ Padded (Derives policy) text value := by
  intro spelled
  have within := Padded.imp (descends_length depthLimit)
    (fun inner derives => Derives.within derives inner) short spelled
  rw [read_iff.mpr within] at failed
  cases failed

end Catalogue.Json

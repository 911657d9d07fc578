import Mathlib
import Catalogue.Client.Reply
import Catalogue.Proofs.Json.Faults
import Catalogue.Proofs.Json.Offences
import Catalogue.Proofs.Storage.Document

/-!
Where a document is at fault. The place that the failure names is never past the fault: the text up
to it is the beginning of a document that can be read. What clients read and a document must not
hold is refused at the first token of that kind, and all else is read alike.
-/

namespace Catalogue.Document

theorem ofItems_error {items : List Json.Value} {corruption : Corruption} :
    ∀ {index : Nat}, ofItems index items = .error corruption → ∃ place, corruption = .notObject place := by
  induction items with
  | nil =>
      intro index failed
      cases failed
  | cons item items ih =>
      intro index failed
      cases item with
      | object members =>
          rw [ofItems] at failed
          rcases Json.bind_eq_error failed with later | ⟨document, _, done⟩
          · exact ih later
          · cases done
      | _ => exact ⟨index, (Except.error.inj failed).symm⟩

theorem ofValue_error {value : Json.Value} {corruption : Corruption}
    (failed : ofValue value = .error corruption) :
    (∃ kind, corruption = .notArray kind) ∨ ∃ place, corruption = .notObject place := by
  cases value with
  | array items => exact Or.inr (ofItems_error failed)
  | _ => exact Or.inl ⟨_, (Except.error.inj failed).symm⟩

theorem read_of_unreadable {bytes : Bytes} {text : Text} {failure : Json.Failure}
    (decoded : Text.ofFile? bytes = some text)
    (failed : ofBytes bytes = .error (.corrupt (.unreadable failure))) :
    Json.read .strict text = .error failure := by
  rw [ofBytes, decoded] at failed
  dsimp only at failed
  split at failed
  · cases failed
  · rename_i cause _ reads
    obtain rfl := Corruption.unreadable.inj (LoadFailure.corrupt.inj (Except.error.inj failed))
    exact reads
  · rename_i value _
    cases result : ofValue value with
    | ok document =>
        rw [result] at failed
        cases failed
    | error corruption =>
        rw [result] at failed
        obtain rfl := LoadFailure.corrupt.inj (Except.error.inj failed)
        rcases ofValue_error result with ⟨_, same⟩ | ⟨_, same⟩ <;> cases same

/-- The place of a fault is in the text, and its line and its column are counted to it. The text up
to it is the beginning of a document that can be read, and a document itself where only more text
comes after it. Behind a fault that is final, no text is a document. -/
theorem ofBytes_fault {bytes : Bytes} {text : Text} {fault : Json.Fault} {position : Json.Position}
    (decoded : Text.ofFile? bytes = some text) (shallow : text.nesting ≤ 100)
    (failed : ofBytes bytes = .error (.corrupt (.unreadable (.fault fault position)))) :
    position.IsIn text ∧
      (∃ continuation value,
        Json.read .strict (text.take position.index ++ continuation) = .ok value) ∧
      (fault = .extraText → ∃ value, Json.read .strict (text.take position.index) = .ok value) ∧
      (fault.IsFinal → position.index < text.length → ∀ continuation value,
        Json.read .strict (text ++ continuation) ≠ .ok value) := by
  have halted := read_of_unreadable decoded failed
  refine ⟨?_, ?_, ?_, ?_⟩
  · obtain ⟨before, unread, rfl, rfl, _⟩ := Json.of_read_fault halted
    exact Json.Position.after_isIn before unread
  · exact Json.read_fault_viable halted (Nat.lt_of_le_of_lt (Nat.succ_le_succ shallow) (by decide))
  · rintro rfl
    exact Json.read_extraText halted
  · intro final inside continuation value reads
    rw [Json.read_fault_final halted final inside] at reads
    cases reads

theorem ofBytes_fault_colon :
    let bytes : Bytes := [0x5B, 0x0A, 0x7B, 0x22, 0x61, 0x22, 0x20, 0x31, 0x7D, 0x5D]
    let text := Text.ofString "[\n\x7b\"a\" 1\x7d]"
    ofBytes bytes = .error (.corrupt (.unreadable (.fault .expectedColon ⟨7, 2, 6⟩))) ∧
      (∃ continuation value,
        Json.read .strict (Text.ofString "[\n\x7b\"a\" " ++ continuation) = .ok value) ∧
      ∀ continuation value, Json.read .strict (text ++ continuation) ≠ .ok value := by
  intro bytes text
  have decoded : Text.ofFile? bytes = some text := by decide +kernel
  have shallow : text.nesting ≤ 100 := by decide +kernel
  have failed : ofBytes bytes =
      .error (.corrupt (.unreadable (.fault .expectedColon ⟨7, 2, 6⟩))) := by rfl
  obtain ⟨_, viable, _, final⟩ := ofBytes_fault decoded shallow failed
  exact ⟨failed, viable, final (by simp [Json.Fault.IsFinal]) (by decide +kernel)⟩

theorem ofBytes_of_refusal {bytes : Bytes} {text : Text} {cause : Json.Refusal}
    (decoded : Text.ofFile? bytes = some text) (deep : cause ≠ .tooDeep)
    (refuses : Json.read .strict text = .error (.refusal cause)) :
    ofBytes bytes = .error (.corrupt (.unreadable (.refusal cause))) := by
  rw [ofBytes, decoded]
  dsimp only
  rw [refuses]
  cases cause with
  | tooDeep => exact absurd rfl deep
  | constant | outOfRange | tooManyDigits => rfl

/-- Beside the reader of clients the strict reader of documents comes to the same value or the same
failure, unless a token is reached that only clients admit: then it refuses the first one, whatever
comes behind it. What it takes for a document clients read as the same value, without a double that
is not finite. -/
theorem read_strict_refines {text : Text} (shallow : text.nesting ≤ 100) :
    ((∀ before cause, ¬ Json.Reaches text before cause) →
      Json.read .strict text = Json.read .lenient text ∧
        Json.readUnmarked .strict text = Json.readUnmarked .lenient text) ∧
    ((∃ before cause, Json.Reaches text before cause) →
      ∃ before cause, Json.ReachesFirst text before cause) ∧
    (∀ before cause, Json.ReachesFirst text before cause →
      Json.read .strict text = .error (.refusal cause) ∧
        Json.readUnmarked .strict text = .error (.refusal cause) ∧
        ∀ bytes, Text.ofFile? bytes = some text →
          ofBytes bytes = .error (.corrupt (.unreadable (.refusal cause)))) ∧
    ∀ bytes document, Text.ofFile? bytes = some text → ofBytes bytes = .ok document →
      document.toValue.HasFiniteDoubles ∧
        ∀ reply : Reply, reply.source = text → reply.value = .ok document.toValue := by
  refine ⟨fun unreached => ?_, ?_, fun before cause reaches => ?_, ?_⟩
  · exact ⟨Json.read_unreached unreached, Json.readUnmarked_unreached unreached⟩
  · rintro ⟨before, cause, reaches⟩
    exact Json.exists_reachesFirst reaches
  · have refuses := reaches.read (Nat.lt_of_le_of_lt shallow (by decide))
    refine ⟨refuses, ?_, fun bytes decoded => ofBytes_of_refusal decoded
      reaches.1.isStrict.ne_tooDeep refuses⟩
    rw [Json.readUnmarked_eq_read, refuses]
    rintro rest rfl
    rw [Json.read, Json.readDocument_marked] at refuses
    cases refuses
  · intro bytes document decoded done
    obtain ⟨inner, within⟩ := derives_of_ofBytes done
    refine ⟨within.derives.hasFiniteDoubles, fun reply same => ?_⟩
    obtain ⟨_, found, reads⟩ := ofBytes_iff.mp done
    obtain rfl := Option.some.inj (found.symm.trans decoded)
    rw [Reply.value, same]
    exact Json.readUnmarked_of_read (Json.read_lenient reads)

theorem read_strict_refines_infinity :
    let text := Text.ofString "[-Infinity,1e400"
    Json.ReachesFirst text [CodePoint.ofChar '['] (.constant (Text.ofString "-Infinity")) ∧
      Json.read .strict text = .error (.refusal (.constant (Text.ofString "-Infinity"))) := by
  intro text
  have opens : Json.Grammar.Opens .lenient [CodePoint.ofChar '['] :=
    Json.Grammar.Opens.inside
      (Json.Grammar.Enters.item Json.Grammar.Leading.none Json.Grammar.areBlanks_nil)
      Json.Grammar.Opens.value
  have offends : Json.Offends (Text.ofString "-Infinity,1e400")
      (.constant (Text.ofString "-Infinity")) := by
    have member : (Text.ofString "-Infinity", Json.Value.double (.infinite true)) ∈
        Json.constants := by simp [Json.constants]
    exact @Json.Offends.constant _ (Text.ofString ",1e400") _ member
  have reaches : Json.Reaches text [CodePoint.ofChar '['] (.constant (Text.ofString "-Infinity")) :=
    Json.Reaches.after Json.Grammar.areBlanks_nil opens offends
  have first : Json.ReachesFirst text [CodePoint.ofChar '[']
      (.constant (Text.ofString "-Infinity")) := by
    refine ⟨reaches, fun other cause later => ?_⟩
    obtain ⟨rest, shape, offends⟩ := later.exists_offends
    cases other with
    | cons => exact Nat.succ_le_succ (Nat.zero_le _)
    | nil =>
        obtain ⟨code, others, same, opens⟩ := offends.begins
        obtain ⟨rfl, _⟩ := List.cons.inj (shape.trans same)
        exact absurd opens.2 (by decide)
  exact ⟨first, ((read_strict_refines (by decide +kernel)).2.2.1 _ _ first).1⟩

end Catalogue.Document

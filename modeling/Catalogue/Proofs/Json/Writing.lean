import Mathlib
import Catalogue.Proofs.Json.Parts
import Catalogue.Proofs.Json.Reading
import Catalogue.Proofs.Json.WrittenNumber
import Catalogue.Proofs.Json.WrittenString

/-!
Writing values. What is written for a value that was derived derives it again, in every style, for
the same reader and as deep as it was derived from. Surrogates side by side in a string can be told
from one code point in every style but ASCII.
-/

namespace Catalogue.Json

open Grammar

def Value.HasNoSurrogatePairs (value : Value) : Prop :=
  (∀ text, Part (.string text) value → ¬ text.HasSurrogatePair) ∧
    ∀ members, Part (.object members) value → ∀ member ∈ members, ¬ member.1.HasSurrogatePair

structure Value.IsWritable (style : Style) (value : Value) : Prop where
  finite : value.HasFiniteDoubles
  digits : value.HasFewDigits
  keys : value.HasDistinctKeys
  apart : style.asciiOnly = true → value.HasNoSurrogatePairs

theorem Value.HasNoSurrogatePairs.of_part {part value : Value} (within : Part part value)
    (apart : value.HasNoSurrogatePairs) : part.HasNoSurrogatePairs :=
  ⟨fun text inner => apart.1 text (inner.trans within),
    fun members inner => apart.2 members (inner.trans within)⟩

theorem Value.IsWritable.of_part {style : Style} {part value : Value} (within : Part part value)
    (writable : value.IsWritable style) : part.IsWritable style where
  finite number inner := writable.finite number (inner.trans within)
  digits number inner := writable.digits number (inner.trans within)
  keys members inner := writable.keys members (inner.trans within)
  apart ascii := (writable.apart ascii).of_part within

variable {policy : Policy} {denotes : Text → Value → Prop} {style : Style}

theorem exists_writeBreak (style : Style) (level : Nat) :
    ∃ blanks, AreBlanks blanks ∧ ∀ after, writeBreak style level after = blanks ++ after := by
  unfold writeBreak
  cases style.indent with
  | none => exact ⟨[], areBlanks_nil, fun _ => rfl⟩
  | some width =>
      refine ⟨CodePoint.lineFeed :: List.replicate (width * level) CodePoint.space, ?_,
        fun _ => rfl⟩
      refine List.forall_mem_cons.mpr ⟨by decide, fun code member => ?_⟩
      rw [List.eq_of_mem_replicate member]
      decide

theorem exists_writeColon (style : Style) :
    ∃ blanks, AreBlanks blanks ∧
      ∀ after, writeColon style after = CodePoint.ofChar ':' :: (blanks ++ after) := by
  unfold writeColon
  cases style.indent with
  | none => exact ⟨[], areBlanks_nil, fun _ => rfl⟩
  | some width =>
      refine ⟨[CodePoint.ofChar ' '], ?_, fun _ => rfl⟩
      exact List.forall_mem_cons.mpr ⟨by decide, nofun⟩

/-! Arrays and objects -/

/-- What is written for a value, whatever stands after it, denotes the value. -/
def Writes (style : Style) (denotes : Text → Value → Prop) (value : Value) : Prop :=
  ∀ level after, ∃ text, denotes text value ∧ writeValue style level value after = text ++ after

theorem Writes.imp {denotes' : Text → Value → Prop} {value : Value}
    (each : ∀ {text}, denotes text value → denotes' text value)
    (writes : Writes style denotes value) : Writes style denotes' value := by
  intro level after
  obtain ⟨text, derives, shape⟩ := writes level after
  exact ⟨text, each derives, shape⟩

theorem writeItems_separated {items : List Value}
    (each : ∀ item ∈ items, Writes style denotes item) (level : Nat) (after : Text) :
    ∃ text, writeItems style level items after = text ++ CodePoint.ofChar ']' :: after ∧
      ∀ {first item}, Padded denotes first item →
        Separated (Padded denotes) (first ++ text) (item :: items) := by
  induction items with
  | nil =>
      obtain ⟨blanks, are, breaks⟩ := exists_writeBreak style level
      exact ⟨blanks, breaks _, fun one => Separated.last (one.after are)⟩
  | cons next items ih =>
      obtain ⟨here, later⟩ := List.forall_mem_cons.mp each
      obtain ⟨rest, shape, separated⟩ := ih later
      obtain ⟨blanks, are, breaks⟩ := exists_writeBreak style (level + 1)
      obtain ⟨text, derives, written⟩ := here (level + 1) (writeItems style level items after)
      refine ⟨CodePoint.ofChar ',' :: (blanks ++ text ++ rest), ?_, fun one => ?_⟩
      · rw [writeItems, breaks, written, shape]
        simp only [List.cons_append, List.append_assoc]
      · exact Separated.more one (separated ((padded_self derives).before are))

theorem writeArray {items : List Value} (each : ∀ item ∈ items, Writes style denotes item) :
    Writes style (Rule policy denotes) (.array items) := by
  intro level after
  cases items with
  | nil =>
      refine ⟨_, Rule.emptyArray areBlanks_nil, ?_⟩
      rw [writeValue]
      rfl
  | cons item items =>
      obtain ⟨here, later⟩ := List.forall_mem_cons.mp each
      obtain ⟨rest, shape, separated⟩ := writeItems_separated later level after
      obtain ⟨blanks, are, breaks⟩ := exists_writeBreak style (level + 1)
      obtain ⟨text, derives, written⟩ := here (level + 1) (writeItems style level items after)
      refine ⟨_, Rule.array (separated ((padded_self derives).before are)), ?_⟩
      rw [writeValue, breaks, written, shape]
      simp only [List.cons_append, List.append_assoc, List.nil_append]

theorem exists_writeMember {key : Text} {value : Value}
    (apart : style.asciiOnly = true → ¬ key.HasSurrogatePair)
    (writes : Writes style denotes value) (level : Nat) (after : Text) :
    ∃ text, Member denotes text (key, value) ∧
      writeBreak style level (writeString style key (writeColon style
        (writeValue style level value after))) = text ++ after := by
  obtain ⟨blanks, are, breaks⟩ := exists_writeBreak style level
  obtain ⟨quoted, spelled, writtenKey⟩ := writeString_quoted style apart
  obtain ⟨space, areSpace, colon⟩ := exists_writeColon style
  obtain ⟨text, derives, written⟩ := writes level after
  refine ⟨_, Member.member ((padded_self spelled).before are)
    ((padded_self derives).before areSpace), ?_⟩
  rw [breaks, writtenKey, colon, written]
  simp only [List.cons_append, List.append_assoc]

theorem writeMembers_separated {members : Members}
    (apart : style.asciiOnly = true → ∀ member ∈ members, ¬ member.1.HasSurrogatePair)
    (each : ∀ member ∈ members, Writes style denotes member.2) (level : Nat) (after : Text) :
    ∃ text, writeMembers style level members after = text ++ CodePoint.ofChar '}' :: after ∧
      ∀ {first member}, Member denotes first member →
        Separated (Member denotes) (first ++ text) (member :: members) := by
  induction members with
  | nil =>
      obtain ⟨blanks, are, breaks⟩ := exists_writeBreak style level
      exact ⟨blanks, breaks _, fun one => Separated.last (one.after are)⟩
  | cons next members ih =>
      obtain ⟨key, value⟩ := next
      obtain ⟨here, later⟩ := List.forall_mem_cons.mp each
      obtain ⟨rest, shape, separated⟩ :=
        ih (fun ascii => (List.forall_mem_cons.mp (apart ascii)).2) later
      obtain ⟨text, spelled, written⟩ := exists_writeMember
        (fun ascii => (List.forall_mem_cons.mp (apart ascii)).1) here (level + 1)
        (writeMembers style level members after)
      refine ⟨CodePoint.ofChar ',' :: (text ++ rest), ?_, fun one => ?_⟩
      · rw [writeMembers, written, shape]
        simp only [List.cons_append, List.append_assoc]
      · exact Separated.more one (separated spelled)

theorem writeObject {members : Members} (distinct : (members.map Prod.fst).Nodup)
    (apart : style.asciiOnly = true → ∀ member ∈ members, ¬ member.1.HasSurrogatePair)
    (each : ∀ member ∈ members, Writes style denotes member.2) :
    Writes style (Rule policy denotes) (.object members) := by
  intro level after
  cases members with
  | nil =>
      refine ⟨_, Rule.emptyObject areBlanks_nil, ?_⟩
      rw [writeValue]
      rfl
  | cons member members =>
      obtain ⟨key, value⟩ := member
      obtain ⟨here, later⟩ := List.forall_mem_cons.mp each
      obtain ⟨rest, shape, separated⟩ := writeMembers_separated
        (fun ascii => (List.forall_mem_cons.mp (apart ascii)).2) later level after
      obtain ⟨text, spelled, written⟩ := exists_writeMember
        (fun ascii => (List.forall_mem_cons.mp (apart ascii)).1) here (level + 1)
        (writeMembers style level members after)
      have rule : Rule policy denotes _ _ := Rule.object (separated spelled)
      rw [merged_of_nodup distinct] at rule
      refine ⟨_, rule, ?_⟩
      rw [writeValue, written, shape]
      simp only [List.cons_append, List.append_assoc, List.nil_append]

theorem writeScalar {value : Value} {text : Text} (spelled : Scalar policy text value)
    (written : ∀ level after, writeValue style level value after = text ++ after) :
    Writes style (Rule policy denotes) value :=
  fun level after => ⟨text, Rule.scalar spelled, written level after⟩

/-- A double that could be derived is written as one that can be: its digits, or one of the names
that only a lenient reader takes. -/
theorem Grammar.Rule.scalar_write {text : Text} {number : Double}
    (spelled : Rule policy denotes text (.double number)) :
    Scalar policy (doubleLayout.write number) (.double number) := by
  have unstrict (endless : number.finite?.isSome = false) : policy = .lenient := by
    cases spelled with
    | scalar one =>
        cases one with
        | double _ _ finite =>
            cases policy with
            | strict => simp [finite rfl] at endless
            | lenient => rfl
        | constant lenient _ => exact lenient
  cases number with
  | finite number => exact scalar_write_double policy doubleLayout number
  | infinite negative =>
      refine Scalar.constant (unstrict rfl) ?_
      cases negative <;> simp [constants, doubleLayout, DoubleLayout.write, DoubleLayout.sign,
        Text.ofString]
  | nan => exact Scalar.constant (unstrict rfl) (by simp [constants, doubleLayout,
      DoubleLayout.write])

theorem Grammar.DerivesWithin.writes {budget : Nat} {text : Text} {value : Value}
    (within : DerivesWithin policy budget text value)
    (apart : style.asciiOnly = true → value.HasNoSurrogatePairs) :
    Writes style (DerivesWithin policy budget) value := by
  induction budget generalizing text value with
  | zero => exact within.elim
  | succ budget ih =>
      have spelled : Rule policy (DerivesWithin policy budget) text value := within
      cases value with
      | null => exact writeScalar Scalar.null fun _ _ => by rw [writeValue]
      | boolean truth =>
          cases truth with
          | true => exact writeScalar Scalar.true fun _ _ => by rw [writeValue]
          | false => exact writeScalar Scalar.false fun _ _ => by rw [writeValue]
      | integer number =>
          have few := within.derives.hasFewDigits number (Value.Part.self _)
          exact writeScalar (scalar_write_integer policy few) fun _ _ => by rw [writeValue]
      | double number => exact writeScalar spelled.scalar_write fun _ _ => by rw [writeValue]
      | string string =>
          intro level after
          obtain ⟨quoted, spelled, written⟩ := writeString_quoted style
            fun ascii => (apart ascii).1 string (Value.Part.self _)
          exact ⟨quoted, Rule.string spelled, by rw [writeValue, written]⟩
      | array items =>
          refine writeArray fun item member => ?_
          obtain ⟨inner, derives⟩ := spelled.exists_of_item member
          exact ih derives fun ascii =>
            (apart ascii).of_part (Value.Part.item member (Value.Part.self item))
      | object members =>
          refine writeObject (within.derives.hasDistinctKeys members (Value.Part.self _))
            (fun ascii => (apart ascii).2 members (Value.Part.self _)) ?_
          rintro ⟨key, value⟩ member
          obtain ⟨inner, derives⟩ := spelled.exists_of_member member
          exact ih derives fun ascii =>
            (apart ascii).of_part (Value.Part.member member (Value.Part.self value))

theorem writeValue_derives {budget : Nat} {text : Text} {value : Value}
    (within : DerivesWithin policy budget text value) (writable : value.IsWritable style) :
    Writes style (DerivesWithin policy budget) value :=
  within.writes writable.apart

theorem Writes.write {value : Value} (writes : Writes style denotes value) :
    denotes (value.write style) value := by
  obtain ⟨written, derives, shape⟩ := writes 0 []
  rw [List.append_nil] at shape
  rw [Value.write, shape]
  exact derives

theorem read_of_writes {value : Value}
    (writes : Writes style (DerivesWithin policy depthLimit) value) :
    Json.read policy (value.write style) = .ok value :=
  read_iff.mpr (padded_self writes.write)

theorem read_write {text : Text} {value : Value}
    (within : DerivesWithin policy depthLimit text value) (writable : value.IsWritable style) :
    Json.read policy (value.write style) = .ok value :=
  read_of_writes (writeValue_derives within writable)

end Catalogue.Json

import Mathlib
import Catalogue.Proofs.Json.Depth

/-!
The parts of a value. Every part of a derived value is derived too, so that what the grammar says
of doubles, whole numbers and objects holds at every depth of it.
-/

namespace Catalogue.Json

inductive Value.Part : Value → Value → Prop
  | self (value : Value) : Part value value
  | item {part item : Value} {items : List Value} : item ∈ items → Part part item →
      Part part (.array items)
  | member {part value : Value} {key : Text} {members : Members} : (key, value) ∈ members →
      Part part value → Part part (.object members)

namespace Value

@[elab_as_elim]
theorem induction {motive : Value → Prop} (null : motive .null)
    (boolean : ∀ truth, motive (.boolean truth)) (integer : ∀ number, motive (.integer number))
    (double : ∀ number, motive (.double number)) (string : ∀ text, motive (.string text))
    (array : ∀ items, (∀ item ∈ items, motive item) → motive (.array items))
    (object : ∀ members : Members, (∀ member ∈ members, motive member.2) →
      motive (.object members)) (value : Value) : motive value :=
  @Value.rec motive (fun items => ∀ item ∈ items, motive item)
    (fun members => ∀ member ∈ members, motive member.2) (fun member => motive member.2)
    null boolean integer double string array object
    nofun (fun _ _ first others => List.forall_mem_cons.mpr ⟨first, others⟩)
    nofun (fun _ _ first others => List.forall_mem_cons.mpr ⟨first, others⟩)
    (fun _ _ one => one) value

theorem Part.trans {inner part value : Value} (within : Part inner part)
    (outer : Part part value) : Part inner value := by
  induction outer with
  | self => exact within
  | item member _ ih => exact Part.item member ih
  | member member _ ih => exact Part.member member ih

def HasDistinctKeys (value : Value) : Prop :=
  ∀ members, Part (.object members) value → (members.map Prod.fst).Nodup

def HasFiniteDoubles (value : Value) : Prop :=
  ∀ number, Part (.double number) value → number.finite?.isSome = true

def HasFewDigits (value : Value) : Prop :=
  ∀ number : Int, Part (.integer number) value →
    (Text.ofNat number.natAbs).length ≤ digitLimit

end Value

namespace Grammar

variable {policy : Policy} {denotes : Text → Value → Prop}

theorem Scalar.not_array {text : Text} {items : List Value} :
    ¬ Scalar policy text (.array items) := by
  intro spelled
  cases spelled with
  | constant _ member => simp [constants] at member

theorem Scalar.not_object {text : Text} {members : Members} :
    ¬ Scalar policy text (.object members) := by
  intro spelled
  cases spelled with
  | constant _ member => simp [constants] at member

theorem Separated.exists_of_mem {α : Type} {denotes : Text → α → Prop} {text : Text}
    {items : List α} (spelled : Separated denotes text items) {item : α} (within : item ∈ items) :
    ∃ part, denotes part item := by
  induction spelled with
  | last one =>
      rw [List.mem_singleton] at within
      exact ⟨_, within ▸ one⟩
  | more one _ ih =>
      rcases List.mem_cons.mp within with rfl | later
      · exact ⟨_, one⟩
      · exact ih later

theorem Rule.exists_of_item {text : Text} {items : List Value}
    (spelled : Rule policy denotes text (.array items)) {item : Value} (within : item ∈ items) :
    ∃ part, denotes part item := by
  cases spelled with
  | scalar one => exact absurd one Scalar.not_array
  | emptyArray => exact absurd within List.not_mem_nil
  | array separated =>
      obtain ⟨_, padded⟩ := separated.exists_of_mem within
      cases padded with
      | padded _ one _ => exact ⟨_, one⟩

theorem Rule.exists_of_member {text : Text} {members : Members}
    (spelled : Rule policy denotes text (.object members)) {key : Text} {value : Value}
    (within : (key, value) ∈ members) : ∃ part, denotes part value := by
  cases spelled with
  | scalar one => exact absurd one Scalar.not_object
  | emptyObject => exact absurd within List.not_mem_nil
  | object separated =>
      obtain ⟨_, spelled⟩ := separated.exists_of_mem (mem_of_mem_merged within)
      cases spelled with
      | member _ padded =>
          cases padded with
          | padded _ one _ => exact ⟨_, one⟩

theorem Derives.exists_of_part {part value : Value} (within : Value.Part part value) :
    ∀ {text : Text}, Derives policy text value → ∃ inner, Derives policy inner part := by
  induction within with
  | self => exact fun derives => ⟨_, derives⟩
  | item member _ ih =>
      rintro text ⟨spelled⟩
      obtain ⟨inner, derives⟩ := spelled.exists_of_item member
      exact ih derives
  | member member _ ih =>
      rintro text ⟨spelled⟩
      obtain ⟨inner, derives⟩ := spelled.exists_of_member member
      exact ih derives

theorem Derives.hasDistinctKeys {text : Text} {value : Value}
    (derives : Derives policy text value) : value.HasDistinctKeys := by
  intro members within
  obtain ⟨inner, ⟨spelled⟩⟩ := Derives.exists_of_part within derives
  cases spelled with
  | scalar one => exact absurd one Scalar.not_object
  | emptyObject => exact List.nodup_nil
  | object => exact nodup_merged _

theorem Derives.hasFiniteDoubles {text : Text} {value : Value}
    (derives : Derives .strict text value) : value.HasFiniteDoubles := by
  intro number within
  obtain ⟨inner, ⟨spelled⟩⟩ := Derives.exists_of_part within derives
  cases spelled with
  | scalar one =>
      cases one with
      | double _ _ finite => exact finite rfl
      | constant lenient _ => exact absurd lenient nofun

theorem Whole.length_ofNat_le {whole : Text} (spelled : Whole whole) :
    (Text.ofNat (Text.digitsValue whole)).length ≤ whole.length := by
  apply Text.length_ofNat_le
  · cases spelled <;> simp
  · cases spelled with
    | zero => decide
    | digits digit _ are => exact Text.digitsValue_lt (List.forall_mem_cons.mpr ⟨digit, are⟩)

theorem Derives.hasFewDigits {text : Text} {value : Value}
    (derives : Derives policy text value) : value.HasFewDigits := by
  intro number within
  obtain ⟨inner, ⟨spelled⟩⟩ := Derives.exists_of_part within derives
  cases spelled with
  | scalar one =>
      cases one with
      | @integer negative whole isWhole few =>
          have magnitude : (if negative then -(numeral whole : Int)
              else numeral whole).natAbs = numeral whole := by
            split_ifs <;> omega
          rw [magnitude, numeral_eq]
          exact isWhole.length_ofNat_le.trans few
      | constant _ member => simp [constants] at member

end Grammar

end Catalogue.Json

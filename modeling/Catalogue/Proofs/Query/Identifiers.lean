import Mathlib
import Catalogue.Proofs.Number.Whole
import Catalogue.Proofs.Query
import Catalogue.Proofs.Service

/-!
Paintings with whole identifiers. A whole number names itself and the whole numbers that share its
double, so that a painting is missed just when one with another identifier of the same double
stands before it, or there is none of its own.
-/

namespace Catalogue

theorem Json.Value.isNamedBy_ofInt {value number : Int} :
    (Json.Value.integer value).isNamedBy (Text.ofInt number) = true ↔
      value = number ∨ SharesDouble value number := by
  rw [isNamedBy_iff_key, display_integer]
  by_cases same : value = number
  · simp [same, IsNameable]
  have nameable : (integer value).IsNameable := trivial
  rw [or_iff_right same, and_iff_right nameable]
  have reads (other : Int) : (Text.ofInt other).number? = (Double.ofInt other).finite? :=
    number?_ofInt other
  cases left : (Double.ofInt value).finite? with
  | none =>
      rw [Text.key_of_not_number ((reads value).trans left)]
      have apart : ¬ SharesDouble value number := by
        rintro ⟨_, double, valueDouble, _⟩
        rw [valueDouble] at left
        cases left
      refine iff_of_false (fun key => ?_) apart
      cases right : (Double.ofInt number).finite? with
      | none =>
          rw [Text.key_of_not_number ((reads number).trans right), Key.text.injEq] at key
          exact same (Text.ofInt_injective key)
      | some double =>
          rw [Text.key_of_number ((reads number).trans right)] at key
          cases key
  | some leftDouble =>
      rw [Text.key_of_number ((reads value).trans left)]
      rw [Double.finite?_eq_some] at left
      cases right : (Double.ofInt number).finite? with
      | none =>
          rw [Text.key_of_not_number ((reads number).trans right)]
          refine iff_of_false Key.noConfusion ?_
          rintro ⟨_, double, _, numberDouble⟩
          rw [numberDouble] at right
          cases right
      | some rightDouble =>
          rw [Text.key_of_number ((reads number).trans right), Key.number.injEq,
            ← FiniteDouble.equals_iff_quanta, FiniteDouble.equals_iff]
          rw [Double.finite?_eq_some] at right
          constructor
          · rintro (rfl | ⟨leftZero, rightZero⟩)
            · exact ⟨same, leftDouble, left, right⟩
            · have valueZero := Double.eq_zero_of_ofInt left leftZero
              have numberZero := Double.eq_zero_of_ofInt right rightZero
              exact absurd (valueZero.trans numberZero.symm) same
          · rintro ⟨_, double, valueDouble, numberDouble⟩
            rw [left, Double.finite.injEq] at valueDouble
            rw [right, Double.finite.injEq] at numberDouble
            exact Or.inl (valueDouble.trans numberDouble.symm)

namespace Query

structure FindsWhole (document : Document) (number : Int) : Prop where
  present : ∀ record ∈ document, record.identifier = .integer number →
    (painting (Text.ofInt number)).answerOver document = .ok (.one record)
  absent : (∀ record ∈ document, record.identifier ≠ .integer number) →
    (painting (Text.ofInt number)).answerOver document =
      .error (.notFound (painting (Text.ofInt number)))

variable {document : Document} {ids : List Int}

theorem getElem?_identifier (whole : document.map Painting.identifier = ids.map Json.Value.integer)
    (position : Nat) : document[position]?.map Painting.identifier =
      ids[position]?.map Json.Value.integer := by
  rw [← List.getElem?_map, ← List.getElem?_map, whole]

theorem exists_record (whole : document.map Painting.identifier = ids.map Json.Value.integer)
    {position : Nat} {id : Int} (there : ids[position]? = some id) :
    ∃ record, document[position]? = some record ∧ record.identifier = .integer id := by
  have same := getElem?_identifier whole position
  rw [there, Option.map_some, Option.map_eq_some_iff] at same
  exact same

theorem exists_id (whole : document.map Painting.identifier = ids.map Json.Value.integer)
    {position : Nat} {record : Painting} (there : document[position]? = some record) :
    ∃ id, ids[position]? = some id ∧ record.identifier = .integer id := by
  have same := getElem?_identifier whole position
  rw [there, Option.map_some, eq_comm, Option.map_eq_some_iff] at same
  obtain ⟨id, here, identifier⟩ := same
  exact ⟨id, here, identifier.symm⟩

/-- A painting is found by its own number unless one of the same double stands before it, and where
no painting has the number none of the same double may be there. -/
theorem findsWhole_iff (whole : document.map Painting.identifier = ids.map Json.Value.integer)
    (distinct : ids.Nodup) (number : Int) : FindsWhole document number ↔
      ∀ (position : Nat) (other : Int), ids[position]? = some other → SharesDouble other number →
        ∃ earlier < position, ids[earlier]? = some number := by
  have named {record : Painting} {id : Int} (identifier : record.identifier = .integer id) :
      record.identifier.isNamedBy (Text.ofInt number) = true ↔
        id = number ∨ SharesDouble id number := by
    rw [identifier, Json.Value.isNamedBy_ofInt]
  constructor
  · intro finds position other there shares
    obtain ⟨record, place, identifier⟩ := exists_record whole there
    obtain ⟨found, first, selected, early, firstPlace, _⟩ :=
      findsFirst place ((named identifier).mpr (Or.inr shares))
    have answered := answerOver_of_some selected
    by_cases given : ∃ wanted ∈ document, wanted.identifier = .integer number
    · obtain ⟨wanted, within, own⟩ := given
      rw [finds.present wanted within own] at answered
      obtain rfl := Selection.one.inj (Except.ok.inj answered)
      obtain ⟨id, here, same⟩ := exists_id whole firstPlace
      obtain rfl := Json.Value.integer.inj (own.symm.trans same)
      refine ⟨first, lt_of_le_of_ne early ?_, here⟩
      rintro rfl
      exact shares.1 (Option.some.inj (there.symm.trans here))
    · rw [finds.absent fun wanted within own => given ⟨wanted, within, own⟩] at answered
      exact absurd answered nofun
  · intro apart
    -- A painting that shares the double of the number stands after one that has the number.
    have afterOwn {position : Nat} {found : Painting} (place : document[position]? = some found)
        (isNamed : found.identifier.isNamedBy (Text.ofInt number) = true) :
        ids[position]? = some number ∨ ∃ earlier < position, ∃ record,
          document[earlier]? = some record ∧ record.identifier = .integer number := by
      obtain ⟨id, here, identifier⟩ := exists_id whole place
      rcases (named identifier).mp isNamed with rfl | shares
      · exact Or.inl here
      · obtain ⟨earlier, before, own⟩ := apart position id here shares
        exact Or.inr ⟨earlier, before, exists_record whole own⟩
    constructor
    · intro record within own
      obtain ⟨index, place⟩ := List.mem_iff_getElem?.mp within
      obtain ⟨found, first, selected, _, firstPlace, isNamed, unnamed⟩ :=
        findsFirst place ((named own).mpr (Or.inl rfl))
      obtain ⟨id, here, same⟩ := exists_id whole place
      obtain rfl := Json.Value.integer.inj (own.symm.trans same)
      rcases afterOwn firstPlace isNamed with there | ⟨earlier, before, other, ownPlace, own⟩
      · have one : first = index :=
          (List.getElem?_inj (List.getElem?_eq_some_iff.mp there).1 distinct).mp
            (there.trans here.symm)
        subst one
        rw [answerOver_of_some selected, Option.some.inj (firstPlace.symm.trans place)]
      · have isOwn := (named own).mpr (Or.inl rfl)
        rw [unnamed earlier before other ownPlace] at isOwn
        exact absurd isOwn Bool.false_ne_true
    · intro missing
      refine answerOver_of_none ?_
      rw [select, Option.map_eq_none_iff, List.find?_eq_none]
      intro found within isNamed
      obtain ⟨index, place⟩ := List.mem_iff_getElem?.mp within
      rcases afterOwn place isNamed with here | ⟨earlier, _, record, ownPlace, own⟩
      · obtain ⟨record, ownPlace, own⟩ := exists_record whole here
        exact missing record (List.mem_of_getElem? ownPlace) own
      · exact missing record (List.mem_of_getElem? ownPlace) own

/-- Whole identifiers are told apart in a document that was read, but for those that share a double
and stand in the wrong order. Below 2^53 and past the finite doubles none share one. -/
theorem finds_whole {bytes : Bytes} (done : Document.ofBytes bytes = .ok document)
    (whole : document.map Painting.identifier = ids.map Json.Value.integer)
    (distinct : ids.Nodup) (number : Int) :
    (FindsWhole document number ↔
      ∀ (position : Nat) (other : Int), ids[position]? = some other → SharesDouble other number →
        ∃ earlier < position, ids[earlier]? = some number) ∧
    (number.natAbs < 2 ^ 53 ∨ (∀ id ∈ ids, id.natAbs < 2 ^ 53) ∨
      (Double.ofInt number).finite? = none → FindsWhole document number) ∧
    selectChecked document (.painting (Text.ofInt number)) =
      .ok (select document (.painting (Text.ofInt number))) := by
  have exactly := findsWhole_iff whole distinct number
  obtain ⟨inner, derives⟩ := Document.derives_of_ofBytes done
  refine ⟨exactly, fun apart => exactly.mpr fun position other there shares => ?_,
    selectChecked_eq derives.derives.hasFewDigits _⟩
  rcases apart with small | small | past
  · exact absurd shares.symm.not_small (Nat.not_le.mpr small)
  · exact absurd shares.not_small (Nat.not_le.mpr (small other (List.mem_of_getElem? there)))
  · obtain ⟨_, double, _, finite⟩ := shares
    rw [finite] at past
    exact absurd past nofun

theorem finds_whole_signs :
    let document : Document := [⟨[("paintingID", .integer 7)]⟩, ⟨[("paintingID", .integer (-7))]⟩]
    (painting (Text.ofInt (-7))).answerOver document =
      .ok (.one ⟨[("paintingID", .integer (-7))]⟩) := by
  intro document
  have done : Document.ofBytes (Text.utf8 (Text.ofString
      "[\x7b\"paintingID\":7\x7d,\x7b\"paintingID\":-7\x7d]")) = .ok document := by rfl
  have found := (@finds_whole document [7, -7] _ done rfl (by decide) (-7)).2.1
    (Or.inl (by decide))
  exact found.present _ (List.mem_cons_of_mem _ List.mem_cons_self) rfl

/-- The two identifiers of this document share a double, and both find the first painting. -/
theorem painting_confused :
    let first : Painting := ⟨[("paintingID", .integer 9007199254740992)]⟩
    let second : Painting := ⟨[("paintingID", .integer 9007199254740993)]⟩
    Document.ofBytes (Text.utf8 (Text.ofString
        "[\x7b\"paintingID\":9007199254740992\x7d,\x7b\"paintingID\":9007199254740993\x7d]")) =
      .ok [first, second] ∧
    (painting (Text.ofInt 9007199254740993)).answerOver [first, second] = .ok (.one first) ∧
    ¬ FindsWhole [first, second] 9007199254740993 := by
  intro first second
  have confused : (painting (Text.ofInt 9007199254740993)).answerOver [first, second] =
      .ok (.one first) := by
    have named : first.identifier.isNamedBy (Text.ofInt 9007199254740993) = true := by
      decide +kernel
    apply answerOver_of_some
    simp [select, named]
  refine ⟨by rfl, confused, fun finds => ?_⟩
  have found := finds.present second (List.mem_cons_of_mem _ List.mem_cons_self) rfl
  rw [confused] at found
  simp [first, second] at found

end Query

end Catalogue

import Mathlib
import Catalogue.Proofs.Json.Edits
import Catalogue.Proofs.Matching.Quoted
import Catalogue.Proofs.Query.Places

/-!
Documents with some of their numbers in quotation marks. What queries look at is told apart by no
comparison before and after, so that every query selects the paintings at the same places of both
documents, or nothing in either.
-/

namespace Catalogue

open Json.Grammar

namespace Json

inductive NumberQuoted : Edit
  | quoted {token : Text} {value : Value} : Scalar .strict token value → value.IsNumber →
      NumberQuoted token (CodePoint.quotationMark :: (token ++ [CodePoint.quotationMark]))

inductive ReferenceEdit (identifier : Text) : Text → Edit
  | number {text changed : Text} : NumberQuoted text changed →
      ReferenceEdit identifier identifier text changed

inductive PaintingEdit : Text → Edit
  | identifier {text changed : Text} : NumberQuoted text changed →
      PaintingEdit "paintingID" text changed
  | year {text changed : Text} : NumberQuoted text changed → PaintingEdit "yearOfWork" text changed
  | gallery {text changed : Text} : ObjectEdit (ReferenceEdit "galleryID") text changed →
      PaintingEdit "gallery" text changed
  | artist {text changed : Text} : ObjectEdit (ReferenceEdit "artistID") text changed →
      PaintingEdit "artist" text changed

/-- Some of the numbers in a document that queries look at are put in quotation marks. -/
def Requoted : Edit := PaddedEdit (ArrayEdit (ObjectEdit PaintingEdit))

def Value.under (identifier : Text) : Value → Value
  | .object members => Value.get members identifier
  | _ => .null

/-- No comparison tells the values apart, nor what is under a key of them. -/
structure Value.Alike (value other : Value) : Prop where
  itself : value.Agrees other
  under : ∀ identifier, (value.under identifier).Agrees (other.under identifier)

@[refl] theorem Value.Alike.refl (value : Value) : value.Alike value :=
  ⟨Agrees.refl value, fun identifier => Agrees.refl (value.under identifier)⟩

theorem carries_numberQuoted : Carries NumberQuoted Value.Alike := by
  intro budget text changed value edited within
  cases edited with
  | @quoted _ source spelled number =>
      have derives : Derives .strict text source := Derives.rule (Rule.scalar spelled)
      obtain ⟨_, rfl, _⟩ := derives.unique within.derives ends_nil ends_nil rfl
      have quoted := spelled.quoted number
      cases budget with
      | zero => exact within.elim
      | succ budget =>
          refine ⟨.string text, Rule.string quoted, spelled.agrees number, fun identifier => ?_⟩
          cases source with
          | integer | double => exact Value.Agrees.refl .null
          | null | boolean | string | array | object => exact number.elim

theorem carries_reference (identifier name : Text) :
    Carries (ReferenceEdit identifier name) Value.Agrees := by
  intro budget text changed value edited within
  cases edited with
  | number edited =>
      obtain ⟨other, spelled, alike⟩ := carries_numberQuoted edited within
      exact ⟨other, spelled, alike.itself⟩

theorem carries_references (identifier : Text) :
    Carries (ObjectEdit (ReferenceEdit identifier)) Value.Alike := by
  intro budget text changed value edited within
  obtain ⟨other, spelled, members, others, rfl, rfl, each⟩ :=
    Carries.object (carries_reference identifier) edited within
  refine ⟨.object others, spelled, ⟨fun _ => rfl, rfl⟩, fun key => ?_⟩
  rcases each key with same | agrees
  · rw [Value.under, Value.under, same]
  · exact agrees

theorem carries_painting (name : Text) : Carries (PaintingEdit name) Value.Alike := by
  intro budget text changed value edited within
  cases edited with
  | identifier edited | year edited => exact carries_numberQuoted edited within
  | gallery edited | artist edited => exact carries_references _ edited within

end Json

def Painting.Alike (record other : Painting) : Prop :=
  ∀ key, (record.field key).Alike (other.field key)

theorem Painting.reference_eq (record : Painting) (key identifier : Text) :
    record.reference key identifier = (record.field key).under identifier := by
  rw [reference]
  cases record.field key <;> rfl

namespace Json

theorem carries_paintings : Carries (ObjectEdit PaintingEdit) fun value other =>
    ∃ record painting : Painting, value = record.toValue ∧ other = painting.toValue ∧
      record.Alike painting := by
  intro budget text changed value edited within
  obtain ⟨other, spelled, members, others, rfl, rfl, each⟩ :=
    Carries.object carries_painting edited within
  refine ⟨.object others, spelled, ⟨members⟩, ⟨others⟩, rfl, rfl, fun key => ?_⟩
  rcases each key with same | alike
  · rw [Painting.field, Painting.field, same]
  · exact alike

end Json

namespace Document

theorem exists_of_forall₂ {document : Document} {items : List Json.Value}
    (related : List.Forall₂ (fun value other => other = value ∨
      ∃ record painting : Painting, value = record.toValue ∧ other = painting.toValue ∧
        record.Alike painting) (document.map Painting.toValue) items) :
    ∃ other : Document, items = other.map Painting.toValue ∧
      List.Forall₂ Painting.Alike document other := by
  rw [List.forall₂_map_left_iff] at related
  induction related with
  | nil => exact ⟨[], rfl, List.Forall₂.nil⟩
  | @cons record item document items one _ ih =>
      obtain ⟨others, rfl, alike⟩ := ih
      rcases one with rfl | ⟨source, painting, same, rfl, likewise⟩
      · exact ⟨record :: others, rfl,
          List.Forall₂.cons (fun key => Json.Value.Alike.refl _) alike⟩
      · obtain ⟨fields⟩ := record
        obtain ⟨sources⟩ := source
        obtain rfl := Json.Value.object.inj same
        exact ⟨painting :: others, rfl, List.Forall₂.cons likewise alike⟩

theorem exists_requoted {text changed : Text} {document : Document}
    (reads : Json.read .strict text = .ok document.toValue)
    (requoted : Json.Requoted text changed) :
    ∃ other : Document, Json.read .strict changed = .ok other.toValue ∧
      List.Forall₂ Painting.Alike document other := by
  obtain ⟨_, _, value, spelled, choice⟩ :=
    Json.Carries.padded (Json.Carries.array Json.carries_paintings) requoted
      (Json.read_iff.mp reads) isCut_nil isCut_nil rfl
  rcases choice with rfl | ⟨items, others, same, rfl, related⟩
  · exact ⟨document, Json.read_iff.mpr spelled,
      List.forall₂_same.mpr fun record _ key => Json.Value.Alike.refl _⟩
  · obtain rfl := Json.Value.array.inj same
    obtain ⟨other, rfl, alike⟩ := exists_of_forall₂ related
    exact ⟨other, Json.read_iff.mpr spelled, alike⟩

end Document

/-! The same places -/

namespace Query

theorem isWithin_eq (low high : FiniteDouble) (record : Painting) :
    record.isWithin low high = (record.year.number?.map FiniteDouble.quanta).any fun year =>
      low.quanta ≤ year && year ≤ high.quanta := by
  rw [Painting.isWithin]
  cases record.year.number? <;> rfl

theorem selects_alike {record other : Painting} (alike : record.Alike other) (query : Query) :
    query.selects record = query.selects other := by
  have reference (key identifier : Text) :
      (record.reference key identifier).Agrees (other.reference key identifier) := by
    rw [Painting.reference_eq, Painting.reference_eq]
    exact (alike key).under identifier
  cases query with
  | all => rfl
  | painting identifier => exact (alike "paintingID").itself.named identifier
  | gallery identifier => exact (reference "gallery" "galleryID").named identifier
  | artist identifier => exact (reference "artist" "artistID").named identifier
  | years least greatest =>
      have years : record.year.number?.map FiniteDouble.quanta =
          other.year.number?.map FiniteDouble.quanta := (alike "yearOfWork").itself.number
      simp only [selects, isWithin_eq, years]

theorem placesOf_alike {keep : Painting → Bool} {document other : Document}
    (alike : List.Forall₂ (fun record painting => keep record = keep painting) document other) :
    placesOf keep document = placesOf keep other := by
  unfold placesOf
  generalize 0 = start
  induction alike generalizing start with
  | nil => rfl
  | @cons record painting document other same _ ih =>
      rw [List.zipIdx_cons, List.zipIdx_cons, List.filter_cons, List.filter_cons, same]
      split
      · rw [List.map_cons, List.map_cons, ih]
      · exact ih (start + 1)

theorem places_alike {document other : Document}
    (alike : List.Forall₂ Painting.Alike document other) (query : Query) :
    query.places document = query.places other := by
  have same : placesOf query.selects document = placesOf query.selects other :=
    placesOf_alike (alike.imp fun _ _ one => selects_alike one query)
  cases query with
  | painting => exact congrArg (List.take 1) same
  | all | gallery | artist | years => exact same

/-- A document with some of its numbers in quotation marks is read too, and every query selects the
paintings at the same places of it, or nothing in either. No comparison tells a number from the text
that it is written as, and both are the same number or neither is one. -/
theorem requoted_alike :
    (∀ (bytes : Bytes) (text changed : Text) (document : Document),
      Text.ofFile? bytes = some text → Document.ofBytes bytes = .ok document →
      Json.Requoted text changed →
      ∃ other : Document,
        (∀ file, Text.ofFile? file = some changed → Document.ofBytes file = .ok other) ∧
        Json.read .strict changed = .ok other.toValue ∧
        ∀ query : Query, query.places document = query.places other ∧
          query.AnswersAt document (query.places document) ∧
          query.AnswersAt other (query.places other)) ∧
    ∀ (token : Text) (value : Json.Value), Scalar .strict token value → value.IsNumber →
      (∀ parameter, value.isNamedBy parameter = (Json.Value.string token).isNamedBy parameter) ∧
      value.number?.map FiniteDouble.quanta =
        (Json.Value.string token).number?.map FiniteDouble.quanta := by
  constructor
  · intro bytes text changed document decoded done requoted
    obtain ⟨inner, decodedInner, reads⟩ := Document.ofBytes_iff.mp done
    obtain rfl := Option.some.inj (decoded.symm.trans decodedInner)
    obtain ⟨other, readsChanged, alike⟩ := Document.exists_requoted reads requoted
    refine ⟨other, fun file decodedFile => ?_, readsChanged, fun query => ?_⟩
    · exact Document.ofBytes_iff.mpr ⟨changed, decodedFile, readsChanged⟩
    · exact ⟨places_alike alike query, answersAt_places document query,
        answersAt_places other query⟩
  · intro token value spelled number
    have agrees := spelled.agrees number
    exact ⟨agrees.named, agrees.number⟩

theorem requoted_alike_seven :
    (∃ other : Document, Document.ofBytes
        (Text.utf8 (Text.ofString "[\x7b\"paintingID\":\"7\"\x7d]")) = .ok other ∧
      AnswersAt other (.painting "7.0") [0]) ∧
    (Json.Value.string "-0").isNamedBy "0.0" = true := by
  obtain ⟨documents, tokens⟩ := requoted_alike
  have seven : Scalar .strict (sign false ++ Text.ofString "7") (.integer 7) :=
    Scalar.integer (Whole.digits rfl (by decide) nofun) (by decide)
  have zero : Scalar .strict (sign true ++ Text.ofString "0") (.integer 0) :=
    Scalar.integer Whole.zero (by decide)
  constructor
  · have keyed : Padded Quoted (Text.ofString "\"paintingID\"") "paintingID" := by
      have reads : Json.readString 20 (CodePoint.quotationMark :: Text.ofString "paintingID\"") =
          .ok ("paintingID", []) := by rfl
      obtain ⟨key, shape, quoted⟩ := Json.of_readString reads
      rw [List.append_nil] at shape
      subst shape
      exact padded_self quoted
    have number := Derives.rule (Rule.scalar seven)
    have record := Derives.rule
      (Rule.object (Separated.last (Member.member keyed (padded_self number))))
    have document := Derives.rule (Rule.array (Separated.last (padded_self record)))
    have numberEdit : Json.Revised (Json.PaintingEdit "paintingID") _ _ :=
      ⟨⟨_, number⟩, Or.inr (.identifier (.quoted seven trivial))⟩
    have recordEdit : Json.Revised (Json.ObjectEdit Json.PaintingEdit) _ _ :=
      ⟨⟨_, record⟩, Or.inr (.object (.last (.member keyed (Json.paddedEdit_self numberEdit))))⟩
    have documentEdit : Json.Requoted _ _ :=
      Json.paddedEdit_self
        ⟨⟨_, document⟩, Or.inr (.array (.last (Json.paddedEdit_self recordEdit)))⟩
    obtain ⟨other, files, _, alike⟩ := documents
      (Text.utf8 (Text.ofString "[\x7b\"paintingID\":7\x7d]")) _ _
      [⟨[("paintingID", .integer 7)]⟩] rfl rfl documentEdit
    obtain ⟨same, _, answers⟩ := alike (.painting "7.0")
    have places : Query.places [⟨[("paintingID", .integer 7)]⟩] (.painting "7.0") = [0] := by
      decide +kernel
    rw [← same, places] at answers
    exact ⟨other, files _ rfl, answers⟩
  · have agrees := (tokens _ _ zero trivial).1 "0.0"
    have named : (Json.Value.integer 0).isNamedBy "0.0" = true := by decide +kernel
    rw [named] at agrees
    exact agrees.symm

end Query

end Catalogue

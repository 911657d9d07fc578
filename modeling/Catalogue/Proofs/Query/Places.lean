import Mathlib
import Catalogue.Proofs.Query
import Catalogue.Proofs.Service

/-!
Places of paintings. What is answered to a query is told by the places of the paintings that it
selects: the paintings that stand there, in their order, or that there is none.
-/

namespace Catalogue

namespace Query

def selects (query : Query) (record : Painting) : Bool :=
  match query with
  | .all => true
  | .painting identifier => record.identifier.isNamedBy identifier
  | .gallery identifier => record.gallery.isNamedBy identifier
  | .artist identifier => record.artist.isNamedBy identifier
  | .years least greatest =>
    match least.number?, greatest.number? with
    | some least, some greatest => record.isWithin least greatest
    | _, _ => false

def placesOf (keep : Painting → Bool) (document : Document) : List Nat :=
  (document.zipIdx.filter fun record => keep record.1).map Prod.snd

def places (document : Document) (query : Query) : List Nat :=
  match query with
  | .painting _ => (placesOf query.selects document).take 1
  | query => placesOf query.selects document

/-- What is answered are the paintings at some places. Where there is no place nothing is found, but
the list of everything may be empty. -/
def AnswersAt (document : Document) (query : Query) (places : List Nat) : Prop :=
  if places = [] ∧ query ≠ .all then query.answerOver document = .error (.notFound query)
  else ∃ selection, query.answerOver document = .ok selection ∧
    selection.paintings.map some = places.map fun place => document[place]?

theorem map_placesOf (keep : Painting → Bool) (document : Document) :
    (placesOf keep document).map (fun place => document[place]?) =
      (document.filter keep).map some := by
  have place (record : Painting × Nat)
      (member : record ∈ document.zipIdx.filter fun record => keep record.1) :
      document[record.2]? = some record.1 :=
    List.mem_zipIdx_iff_getElem?.mp (List.mem_of_mem_filter member)
  have kept : (document.zipIdx.filter fun record => keep record.1).map Prod.fst =
      document.filter keep := by
    have filtered : (document.zipIdx.map Prod.fst).filter keep = _ := List.filter_map
    rw [List.zipIdx_map_fst] at filtered
    exact filtered.symm
  rw [placesOf, List.map_map, ← kept, List.map_map]
  exact List.map_congr_left place

variable {document : Document} {query : Query}

theorem answersAt_of_some {places : List Nat} {selection : Selection}
    (selected : query.select document = some selection) (given : places ≠ [] ∨ query = .all)
    (there : selection.paintings.map some = places.map fun place => document[place]?) :
    query.AnswersAt document places := by
  have notNone : ¬ (places = [] ∧ query ≠ .all) := by
    rintro ⟨none, notAll⟩
    exact given.elim (fun some => some none) notAll
  rw [AnswersAt, if_neg notNone]
  exact ⟨selection, answerOver_of_some selected, there⟩

theorem answersAt_of_none (selected : query.select document = none) (notAll : query ≠ .all) :
    query.AnswersAt document [] := by
  rw [AnswersAt, if_pos ⟨rfl, notAll⟩]
  exact answerOver_of_none selected

theorem answersAt_of_filter {keep : Painting → Bool} (notAll : query ≠ .all)
    (selected : query.select document = Selection.ofDocument? (document.filter keep)) :
    query.AnswersAt document (placesOf keep document) := by
  have placed := map_placesOf keep document
  cases kept : document.filter keep with
  | nil =>
      rw [kept, List.map_nil, List.map_eq_nil_iff] at placed
      rw [placed]
      exact answersAt_of_none (by rw [selected, kept]; rfl) notAll
  | cons record others =>
      have given : placesOf keep document ≠ [] := by
        intro none
        rw [none, kept] at placed
        exact absurd placed nofun
      rw [kept] at selected placed
      exact answersAt_of_some selected (Or.inl given) placed.symm

theorem select_years (document : Document) (least greatest : Text) :
    select document (.years least greatest) =
      Selection.ofDocument? (document.filter (selects (.years least greatest))) := by
  cases low : least.number? with
  | none => simp [select, selects, low, Selection.ofDocument?]
  | some lowest =>
      cases high : greatest.number? with
      | none => simp [select, selects, low, high, Selection.ofDocument?]
      | some highest =>
          have same : selects (.years least greatest) = fun record =>
              record.isWithin lowest highest := by
            funext record
            simp [selects, low, high]
          rw [same, select, low, high]

theorem answersAt_places (document : Document) (query : Query) :
    query.AnswersAt document (query.places document) := by
  cases query with
  | all =>
      have placed := map_placesOf (selects .all) document
      have everything : document.filter (selects .all) = document :=
        List.filter_eq_self.mpr fun _ _ => rfl
      rw [everything] at placed
      exact answersAt_of_some rfl (Or.inr rfl) placed.symm
  | gallery | artist => exact answersAt_of_filter nofun rfl
  | years least greatest => exact answersAt_of_filter nofun (select_years document least greatest)
  | painting identifier =>
      have placed := map_placesOf (selects (.painting identifier)) document
      have first : document.find? (selects (.painting identifier)) =
          (document.filter (selects (.painting identifier))).head? := List.head?_filter.symm
      have selected : select document (.painting identifier) =
          (document.find? (selects (.painting identifier))).map .one := rfl
      rw [first] at selected
      rw [places]
      cases kept : document.filter (selects (.painting identifier)) with
      | nil =>
          rw [kept, List.map_nil, List.map_eq_nil_iff] at placed
          rw [kept] at selected
          rw [placed]
          exact answersAt_of_none selected nofun
      | cons record others =>
          rw [kept] at selected placed
          cases found : placesOf (selects (.painting identifier)) document with
          | nil =>
              rw [found] at placed
              exact absurd placed nofun
          | cons place later =>
              rw [found, List.map_cons, List.map_cons] at placed
              refine answersAt_of_some selected (Or.inl (List.cons_ne_nil _ _)) ?_
              exact congrArg (· :: []) (List.cons.inj placed).1.symm

end Query

end Catalogue

import Mathlib
import Catalogue.Proofs.Json.Scalars
import Catalogue.Server.Route

/-!
Paths of queries there and back. A path is cut at its slashes, so that the path that is built for a
query is routed to that query, as long as its parameters are not empty and hold no slash.
-/

namespace Catalogue

namespace Text

variable {separator : CodePoint} {piece : Text}

theorem splitOn_ne_nil (separator : CodePoint) (text : Text) : text.splitOn separator ≠ [] := by
  cases text with
  | nil => exact List.cons_ne_nil _ _
  | cons code text =>
      rw [splitOn]
      split
      · exact List.cons_ne_nil _ _
      · split_ifs <;> exact List.cons_ne_nil _ _

theorem splitOn_separator (text : Text) :
    splitOn separator (separator :: text) = [] :: splitOn separator text := by
  rw [splitOn]
  split
  · rename_i nothing
    exact absurd nothing (splitOn_ne_nil separator text)
  · rename_i pieces
    rw [if_pos rfl, pieces]

theorem splitOn_append (apart : separator ∉ piece) (text : Text) :
    splitOn separator (piece ++ separator :: text) = piece :: splitOn separator text := by
  induction piece with
  | nil => exact splitOn_separator text
  | cons code piece ih =>
      rw [List.mem_cons, not_or] at apart
      rw [List.cons_append, splitOn, ih apart.2]
      dsimp only
      rw [if_neg (Ne.symm apart.1)]

theorem splitOn_of_not_mem (apart : separator ∉ piece) : splitOn separator piece = [piece] := by
  induction piece with
  | nil => rfl
  | cons code piece ih =>
      rw [List.mem_cons, not_or] at apart
      rw [splitOn, ih apart.2]
      dsimp only
      rw [if_neg (Ne.symm apart.1)]

theorem of_splitOn {text : Text} {pieces : List Text}
    (split : splitOn separator text = piece :: pieces) :
    separator ∉ piece ∧ (text = piece ∧ pieces = [] ∨
      ∃ rest, text = piece ++ separator :: rest ∧ splitOn separator rest = pieces) := by
  induction text generalizing piece with
  | nil =>
      obtain ⟨rfl, rfl⟩ := List.cons.inj split
      exact ⟨List.not_mem_nil, Or.inl ⟨rfl, rfl⟩⟩
  | cons code text ih =>
      rw [splitOn] at split
      cases inner : splitOn separator text with
      | nil => exact absurd inner (splitOn_ne_nil separator text)
      | cons first others =>
          rw [inner] at split
          dsimp only at split
          split_ifs at split with same
          · obtain ⟨rfl, rfl⟩ := List.cons.inj split
            exact ⟨List.not_mem_nil, Or.inr ⟨text, by rw [same, List.nil_append], inner⟩⟩
          · obtain ⟨rfl, rfl⟩ := List.cons.inj split
            obtain ⟨apart, place⟩ := ih inner
            refine ⟨List.not_mem_cons_of_ne_of_not_mem (Ne.symm same) apart, ?_⟩
            rcases place with ⟨rfl, rfl⟩ | ⟨rest, rfl, later⟩
            · exact Or.inl ⟨rfl, rfl⟩
            · exact Or.inr ⟨rest, rfl, later⟩

end Text

/-! Paths -/

def Text.IsParameter (text : Text) : Prop := text ≠ [] ∧ CodePoint.ofChar '/' ∉ text

def Query.parameters : Query → List Text
  | all => []
  | painting identifier => [identifier]
  | gallery identifier => [identifier]
  | artist identifier => [identifier]
  | years least greatest => [least, greatest]

theorem Route.ofPath?_collection (rest : Text) :
    Route.ofPath? (collectionPath ++ rest) = (Query.ofRest? rest).map Route.query := by
  have health : Text.after? (collectionPath ++ rest) healthPath = none := rfl
  rw [Route.ofPath?, health, Json.after?_append]
  rfl

theorem Query.ofRest?_slash (text : Text) :
    Query.ofRest? (slash ++ text) = Query.ofPieces? (text.splitOn '/') := by
  have start : slash ++ text = CodePoint.ofChar '/' :: text := rfl
  have open_ : isPathEnd (CodePoint.ofChar '/' :: text) = false := by
    have different : CodePoint.ofChar '/' ≠ CodePoint.lineFeed := by decide
    simp [isPathEnd, different]
  rw [start, Query.ofRest?, open_, Text.splitOn_separator]
  rfl

theorem splitOn_slash {piece : Text} (apart : CodePoint.ofChar '/' ∉ piece) (text : Text) :
    Text.splitOn '/' (piece ++ (slash ++ text)) = piece :: Text.splitOn '/' text :=
  Text.splitOn_append apart text

theorem of_splitOn_single {text piece : Text} (split : Text.splitOn '/' text = [piece]) :
    text = piece ∧ CodePoint.ofChar '/' ∉ piece := by
  obtain ⟨apart, place⟩ := Text.of_splitOn split
  rcases place with ⟨rfl, _⟩ | ⟨rest, _, none⟩
  · exact ⟨rfl, apart⟩
  · exact absurd none (Text.splitOn_ne_nil _ rest)

theorem of_splitOn_more {text piece next : Text} {others : List Text}
    (split : Text.splitOn '/' text = piece :: next :: others) :
    ∃ rest, text = piece ++ (slash ++ rest) ∧ CodePoint.ofChar '/' ∉ piece ∧
      Text.splitOn '/' rest = next :: others := by
  obtain ⟨apart, place⟩ := Text.of_splitOn split
  rcases place with ⟨_, none⟩ | ⟨rest, rfl, later⟩
  · exact absurd none nofun
  · exact ⟨rest, rfl, apart, later⟩

/-- The words in paths are no obstacle: how many pieces there are tells the queries apart. -/
theorem Route.ofPath?_toPath {query : Query}
    (addressable : ∀ parameter ∈ query.parameters, parameter.IsParameter) :
    Route.ofPath? query.toPath = some (.query query) := by
  cases query with
  | all =>
      have path := Route.ofPath?_collection []
      rw [List.append_nil] at path
      exact path
  | painting identifier =>
      obtain ⟨given, apart⟩ := addressable identifier List.mem_cons_self
      simp only [Query.toPath, List.append_assoc]
      rw [Route.ofPath?_collection, Query.ofRest?_slash, Text.splitOn_of_not_mem apart,
        Query.ofPieces?, if_neg given]
      rfl
  | gallery identifier =>
      obtain ⟨given, apart⟩ := addressable identifier List.mem_cons_self
      simp only [Query.toPath, List.append_assoc]
      rw [Route.ofPath?_collection, Query.ofRest?_slash, splitOn_slash (by decide),
        Text.splitOn_of_not_mem apart, Query.ofPieces?, if_neg given, if_pos rfl]
      rfl
  | artist identifier =>
      obtain ⟨given, apart⟩ := addressable identifier List.mem_cons_self
      simp only [Query.toPath, List.append_assoc]
      rw [Route.ofPath?_collection, Query.ofRest?_slash, splitOn_slash (by decide),
        Text.splitOn_of_not_mem apart, Query.ofPieces?, if_neg given, if_neg (by decide),
        if_pos rfl]
      rfl
  | years least greatest =>
      obtain ⟨givenLeast, apartLeast⟩ := addressable least List.mem_cons_self
      obtain ⟨givenGreatest, apartGreatest⟩ :=
        addressable greatest (List.mem_cons_of_mem _ List.mem_cons_self)
      simp only [Query.toPath, List.append_assoc]
      rw [Route.ofPath?_collection, Query.ofRest?_slash, splitOn_slash (by decide),
        splitOn_slash apartLeast, Text.splitOn_of_not_mem apartGreatest, Query.ofPieces?,
        if_pos ⟨rfl, givenLeast, givenGreatest⟩]
      rfl

end Catalogue

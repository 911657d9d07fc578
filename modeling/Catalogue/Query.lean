import Catalogue.Log.Entry
import Catalogue.Matching
import Catalogue.Painting

/-!
The five queries over a document. All but the list of everything may select nothing, which is an
outcome of its own with its own message.
-/

namespace Catalogue

inductive Query where
  | all
  | painting (identifier : Text)
  | gallery (identifier : Text)
  | artist (identifier : Text)
  | years (least greatest : Text)
  deriving DecidableEq

inductive Selection where
  | one (painting : Painting)
  | many (paintings : Document)

namespace Selection

def paintings : Selection → Document
  | one painting => [painting]
  | many paintings => paintings

def toValue : Selection → Json.Value
  | one painting => painting.toValue
  | many paintings => .array (paintings.map Painting.toValue)

def ofDocument? (paintings : Document) : Option Selection :=
  if paintings.isEmpty then none else some (many paintings)

end Selection

def Painting.isWithin (least greatest : FiniteDouble) (painting : Painting) : Bool :=
  match painting.year.number? with
  | some year => least.atMost year && year.atMost greatest
  | none => false

namespace Query

def select (document : Document) : Query → Option Selection
  | all => some (.many document)
  | painting identifier => (document.find? (·.identifier.isNamedBy identifier)).map .one
  | gallery identifier => Selection.ofDocument? (document.filter (·.gallery.isNamedBy identifier))
  | artist identifier => Selection.ofDocument? (document.filter (·.artist.isNamedBy identifier))
  | years least greatest =>
    match least.number?, greatest.number? with
    | some least, some greatest =>
      Selection.ofDocument? (document.filter (·.isWithin least greatest))
    | _, _ => none

def notFoundMessage : Query → Text
  | all => []
  | painting _ => "Painting not found :("
  | gallery _ => "No paintings found in this gallery :("
  | artist _ => "No paintings by this artist have been found :("
  | years least greatest =>
    Text.ofString "No paintings made in the range " ++ least ++ Text.ofString " - " ++ greatest

def subject : Query → Text
  | all => []
  | painting identifier => Text.ofString " with id " ++ identifier
  | gallery identifier => Text.ofString " in gallery " ++ identifier
  | artist identifier => Text.ofString " by artist " ++ identifier
  | years least greatest => Text.ofString " between " ++ least ++ Text.ofString " and " ++ greatest

def logMessage (query : Query) : Option Selection → Text
  | some (.one _) => Text.ofString "Found painting" ++ query.subject
  | some (.many paintings) =>
    let verb := if query = all then Text.ofString "Listing " else Text.ofString "Found "
    verb ++ Text.ofNat paintings.length ++ Text.ofString " paintings" ++ query.subject
  | none =>
    match query with
    | painting _ => Text.ofString "No painting" ++ query.subject
    | _ => Text.ofString "No paintings" ++ query.subject

def entry (query : Query) (selected : Option Selection) : Log.Entry :=
  ⟨Log.Level.debug, .query, query.logMessage selected⟩

end Query

end Catalogue

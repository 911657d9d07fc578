import Catalogue.Query

/-!
The routes of the server. The path of a query is built and read here, for the client and for the
server alike: a parameter is one or more characters other than the slash.
-/

namespace Catalogue

def collectionPath : Text := "/api/paintings"
def healthPath : Text := "/health"

def slash : Text := "/"

def galleryWord : Text := "gallery"
def artistWord : Text := "artist"
def yearWord : Text := "year"

def Query.toPath : Query → Text
  | .all => collectionPath
  | .painting identifier => collectionPath ++ slash ++ identifier
  | .gallery identifier => collectionPath ++ slash ++ galleryWord ++ slash ++ identifier
  | .artist identifier => collectionPath ++ slash ++ artistWord ++ slash ++ identifier
  | .years least greatest =>
    collectionPath ++ slash ++ yearWord ++ slash ++ least ++ slash ++ greatest

def Query.ofPieces? : List Text → Option Query
  | [] => some .all
  | [identifier] => if identifier = [] then none else some (.painting identifier)
  | [word, identifier] =>
    if identifier = [] then none
    else if word = galleryWord then some (.gallery identifier)
    else if word = artistWord then some (.artist identifier)
    else none
  | [word, least, greatest] =>
    if word = yearWord ∧ least ≠ [] ∧ greatest ≠ [] then some (.years least greatest) else none
  | _ => none

inductive Route where
  | query (query : Query)
  | health
  deriving DecidableEq

/-- Whether nothing follows a path, or a line feed, which does not count. -/
def isPathEnd (rest : Text) : Bool := rest = [] || rest = [CodePoint.lineFeed]

def Query.ofRest? (rest : Text) : Option Query :=
  if isPathEnd rest then some .all
  else match rest.splitOn '/' with
    | [] :: pieces => Query.ofPieces? pieces
    | _ => none

def Route.ofPath? (path : Text) : Option Route :=
  if (path.after? healthPath).any isPathEnd then some .health
  else ((path.after? collectionPath).bind Query.ofRest?).map .query

end Catalogue

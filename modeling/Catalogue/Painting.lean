import Catalogue.Json.Value

/-!
Paintings as a file keeps them. A painting is an object with any fields; the fields that queries
look at need not be there, and may hold any value.
-/

namespace Catalogue

structure Painting where
  fields : Json.Members

abbrev Document := List Painting

namespace Painting

def field (painting : Painting) (key : Text) : Json.Value := Json.Value.get painting.fields key

/-- The identifier in an object under a key, null where either is missing. -/
def reference (painting : Painting) (key identifier : Text) : Json.Value :=
  match painting.field key with
  | .object members => Json.Value.get members identifier
  | _ => .null

def identifier (painting : Painting) : Json.Value := painting.field "paintingID"

def gallery (painting : Painting) : Json.Value := painting.reference "gallery" "galleryID"

def artist (painting : Painting) : Json.Value := painting.reference "artist" "artistID"

def year (painting : Painting) : Json.Value := painting.field "yearOfWork"

def toValue (painting : Painting) : Json.Value := .object painting.fields

end Painting

end Catalogue

import Catalogue.Json.Printer
import Catalogue.Server.MediaType
import Catalogue.Storage.FileSystem
import Catalogue.Text.Percent

/-!
Requests and responses. A response body is a text; it is sent as UTF-8, so that a text with
surrogates cannot be sent. Failures that no handler expects end in a plain response of their own,
which says what they were.
-/

namespace Catalogue

structure Request where
  method : Text
  origin : Text
  /-- The path, with percent-encoding undone. -/
  path : Text
  query : Text

inductive Crash where
  | tooDeep
  | path (refusal : PathRefusal)
  | unencodable
  | unserializable
  | obstacle (obstacle : Obstacle)
  | noDirectory
  deriving DecidableEq

structure Response where
  status : Nat
  mediaType : Option MediaType
  location : Option Text
  allow : Option Text
  body : Text
  crash : Option Crash
  deriving DecidableEq

namespace Response

def ofText (status : Nat) (mediaType : MediaType) (body : Text) : Response :=
  ⟨status, some mediaType, none, none, body, none⟩

def ofCrash (crash : Crash) : Response :=
  ⟨500, some .plain, none, none, "Internal Server Error", some crash⟩

def ofValue (status : Nat) (value : Json.Value) : Response :=
  let body := value.write Json.Style.compact
  if body.any CodePoint.isSurrogate then ofCrash .unencodable
  else ofText status .json body

def ofMember (status : Nat) (key : String) (text : Text) : Response :=
  ofValue status (.object [(Text.ofString key, .string text)])

def notFound : Response := ofMember 404 "detail" "Not Found"

def methodNotAllowed (allow : Text) : Response :=
  { ofMember 405 "detail" "Method Not Allowed" with allow := some allow }

def redirect (address : Text) : Response :=
  ⟨307, none, some address.percentEncoded, none, [], none⟩

end Response

/-- Keys with this beginning are not sent. -/
def hiddenBeginning : Text := "_sa"

mutual

def visibleValue (value : Json.Value) : Json.Value :=
  match value with
  | .array items => .array (visibleItems items)
  | .object members => .object (visibleMembers members)
  | value => value

def visibleItems (items : List Json.Value) : List Json.Value :=
  match items with
  | [] => []
  | item :: items => visibleValue item :: visibleItems items

def visibleMembers (members : Json.Members) : Json.Members :=
  match members with
  | [] => []
  | (key, value) :: members =>
    if key.startsWith hiddenBeginning then visibleMembers members
    else (key, visibleValue value) :: visibleMembers members

end

end Catalogue

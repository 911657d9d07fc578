import Catalogue.Json.Value
import Catalogue.Text.LetterCase

/-!
Schemas for the objects that the server sends. A schema names the fields of an object and what
they may hold; reading a value by a schema gives an object with the named fields first, or one
complaint for every field at fault, in the order of the schema.
-/

namespace Catalogue

/-- A named field. One that is not required is null where it is missing. -/
structure Field (shape : Type) where
  key : Text
  isRequired : Bool
  shape : shape

/-- What a value may be. An object may keep fields that its schema does not name. -/
inductive Shape where
  | anything
  | text
  | textOrNull
  | flag
  | record (name : String) (keepsOthers : Bool) (fields : List (Field Shape))

inductive FieldFault where
  | missing
  | notText
  | notUnicode
  | notFlag
  | unclearFlag
  | notRecord (name : String)
  deriving DecidableEq

namespace FieldFault

def kind : FieldFault → String
  | missing => "missing"
  | notText => "string_type"
  | notUnicode => "string_unicode"
  | notFlag => "bool_type"
  | unclearFlag => "bool_parsing"
  | notRecord _ => "model_type"

def message : FieldFault → Text
  | missing => "Field required"
  | notText => "Input should be a valid string"
  | notUnicode =>
    "Input should be a valid string, unable to parse raw data as a unicode string"
  | notFlag => "Input should be a valid boolean"
  | unclearFlag => "Input should be a valid boolean, unable to interpret input"
  | notRecord name =>
    Text.ofString "Input should be a valid dictionary or instance of " ++ Text.ofString name

end FieldFault

structure Complaint where
  place : List Text
  fault : FieldFault
  deriving DecidableEq

def Complaint.within (key : Text) (complaint : Complaint) : Complaint :=
  { complaint with place := key :: complaint.place }

abbrev Checked (result : Type) := Except (List Complaint) result

def faulty {result : Type} (fault : FieldFault) : Checked result := .error [⟨[], fault⟩]

def yesWords : List Text := ["1", "on", "t", "true", "y", "yes"]
def noWords : List Text := ["0", "off", "f", "false", "n", "no"]

def flagOfWord (word : Text) : Checked Json.Value :=
  if word.any CodePoint.isSurrogate then faulty .notUnicode
  else if yesWords.contains word.lowerAscii then .ok (.boolean true)
  else if noWords.contains word.lowerAscii then .ok (.boolean false)
  else faulty .unclearFlag

/-- The flag of a whole number. Other numbers than zero and one are unclear while they fit into a
word of 64 bits, and no flags at all beyond. -/
def flagOfWhole (number : Int) : Checked Json.Value :=
  if number = 0 then .ok (.boolean false)
  else if number = 1 then .ok (.boolean true)
  else if -Int.pow 2 63 ≤ number ∧ number < Int.pow 2 63 then faulty .unclearFlag
  else faulty .notFlag

/-- The flag of a double. The double at the lower end of the words of 64 bits is beyond them. -/
def flagOfDouble (number : Double) : Checked Json.Value :=
  match number.finite?.bind FiniteDouble.whole? with
  | some whole => if whole = -Int.pow 2 63 then faulty .notFlag else flagOfWhole whole
  | none => faulty .notFlag

def flagOfValue : Json.Value → Checked Json.Value
  | .boolean truth => .ok (.boolean truth)
  | .integer number => flagOfWhole number
  | .double number => flagOfDouble number
  | .string word => flagOfWord word
  | _ => faulty .notFlag

def otherMembers (fields : List (Field Shape)) (members : Json.Members) : Json.Members :=
  members.filter fun member => fields.all (·.key ≠ member.1)

/-- Whether a key holds a surrogate. An object that keeps its other members cannot be read then. -/
def hasDamagedKey (members : Json.Members) : Bool :=
  members.any fun member => member.1.any CodePoint.isSurrogate

def withMember (key : Text) (value : Checked Json.Value) (members : Checked Json.Members) :
    Checked Json.Members :=
  match value, members with
  | .ok value, .ok members => .ok ((key, value) :: members)
  | .ok _, .error complaints => .error complaints
  | .error complaints, .ok _ => .error (complaints.map (Complaint.within key))
  | .error complaints, .error others => .error (complaints.map (Complaint.within key) ++ others)

mutual

def Shape.read (value : Json.Value) (shape : Shape) : Checked Json.Value :=
  match shape with
  | .anything => .ok value
  | .text =>
    match value with
    | .string text => .ok (.string text)
    | _ => faulty .notText
  | .textOrNull =>
    match value with
    | .null => .ok .null
    | .string text => .ok (.string text)
    | _ => faulty .notText
  | .flag => flagOfValue value
  | .record name keepsOthers fields =>
    match value with
    | .object members =>
      if keepsOthers && hasDamagedKey members then faulty .notUnicode
      else match readFields members fields with
      | .ok named =>
        .ok (.object (named ++ if keepsOthers then otherMembers fields members else []))
      | .error complaints => .error complaints
    | _ => faulty (.notRecord name)

def readFields (members : Json.Members) (fields : List (Field Shape)) : Checked Json.Members :=
  match fields with
  | [] => .ok []
  | ⟨key, isRequired, shape⟩ :: fields =>
    withMember key
      (match members.find? key with
        | some value => shape.read value
        | none => if isRequired then faulty .missing else .ok .null)
      (readFields members fields)

end

namespace Schema

def required (key : String) (shape : Shape) : Field Shape := ⟨key, true, shape⟩

def optionalText (key : String) : Field Shape := ⟨key, false, .textOrNull⟩

def gallery : Shape :=
  .record "GalleryRef" true [required "galleryID" .anything, optionalText "galleryName"]

def artist : Shape :=
  .record "ArtistRef" true [required "artistID" .anything, optionalText "lastName"]

def painting : Shape :=
  .record "Painting" true
    [required "paintingID" .anything, optionalText "title", required "yearOfWork" .anything,
      required "gallery" gallery, required "artist" artist]

def message : Shape := .record "Message" false [required "message" .text]

def health : Shape :=
  .record "HealthStatus" false
    [required "status" .text, required "data_file" .text, required "data_file_exists" .flag]

end Schema

end Catalogue

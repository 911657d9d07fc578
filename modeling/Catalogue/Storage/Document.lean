import Catalogue.Json.Reader
import Catalogue.Log.Entry
import Catalogue.Painting
import Catalogue.Storage.FileSystem
import Catalogue.Text.Encoding

/-!
Loading the document of paintings: the bytes of a file, read as a JSON array of objects. Failures
that belong to the file are told apart from those that no file can be blamed for.
-/

namespace Catalogue

inductive ValueKind where
  | null
  | boolean
  | integer
  | double
  | string
  | array
  | object
  deriving DecidableEq

namespace ValueKind

def ofValue : Json.Value → ValueKind
  | .null => null
  | .boolean _ => boolean
  | .integer _ => integer
  | .double _ => double
  | .string _ => string
  | .array _ => array
  | .object _ => object

def name : ValueKind → String
  | null => "NoneType"
  | boolean => "bool"
  | integer => "int"
  | double => "float"
  | string => "str"
  | array => "list"
  | object => "dict"

end ValueKind

inductive Corruption where
  | undecodable
  | unreadable (failure : Json.Failure)
  | notArray (kind : ValueKind)
  | notObject (index : Nat)
  deriving DecidableEq

def Corruption.message : Corruption → Text
  | undecodable => "the bytes are not text in their encoding"
  | unreadable failure => failure.message
  | notArray kind => Text.ofString "expected a JSON array, got " ++ Text.ofString kind.name
  | notObject index =>
    Text.ofString "record " ++ Text.ofNat index ++ Text.ofString " is not an object"

inductive LoadFailure where
  | unavailable (obstacle : Obstacle)
  | corrupt (corruption : Corruption)
  | refused (refusal : PathRefusal)
  | tooDeep
  deriving DecidableEq

namespace LoadFailure

def isDocumentFailure : LoadFailure → Bool
  | unavailable _ => true
  | corrupt _ => true
  | _ => false

def message (path : Text) : LoadFailure → Text
  | unavailable obstacle => path ++ Text.ofString ": " ++ obstacle.message path
  | corrupt corruption => path ++ Text.ofString ": " ++ corruption.message
  | refused refusal => refusal.message
  | tooDeep => "nested too deeply"

/-- What is logged about a failure; those that are no document's fault go unlogged. -/
def entries (path : Text) : LoadFailure → List Log.Entry
  | unavailable obstacle =>
    [⟨Log.Level.error, .document, Text.ofString "Error reading data file " ++ path ++
      Text.ofString ": " ++ obstacle.message path⟩]
  | corrupt (.notArray _) =>
    [⟨Log.Level.error, .document, Text.ofString "Data file " ++ path ++
      Text.ofString " does not contain a JSON array"⟩]
  | corrupt (.notObject index) =>
    [⟨Log.Level.error, .document, Text.ofString "Data file " ++ path ++
      Text.ofString ": record " ++ Text.ofNat index ++ Text.ofString " is not an object"⟩]
  | corrupt corruption =>
    [⟨Log.Level.error, .document, Text.ofString "Error parsing data file " ++ path ++
      Text.ofString ": " ++ corruption.message⟩]
  | refused _ => []
  | tooDeep => []

end LoadFailure

namespace Document

def ofItems (index : Nat) : List Json.Value → Except Corruption Document
  | [] => .ok []
  | .object members :: items => do
    let document ← ofItems (index + 1) items
    .ok (⟨members⟩ :: document)
  | _ :: _ => .error (.notObject index)

def ofValue : Json.Value → Except Corruption Document
  | .array items => ofItems 0 items
  | value => .error (.notArray (.ofValue value))

def toValue (document : Document) : Json.Value := .array (document.map Painting.toValue)

def ofBytes (bytes : Bytes) : Except LoadFailure Document :=
  match Text.ofFile? bytes with
  | none => .error (.corrupt .undecodable)
  | some text =>
    match Json.read .strict text with
    | .error (.refusal .tooDeep) => .error .tooDeep
    | .error failure => .error (.corrupt (.unreadable failure))
    | .ok value => (ofValue value).mapError .corrupt

def load (system : FileSystem) (path : Path) : Except LoadFailure Document :=
  match FileSystem.refusal? path with
  | some refusal => .error (.refused refusal)
  | none =>
    match system.content path with
    | .error obstacle => .error (.unavailable obstacle)
    | .ok bytes => ofBytes bytes

end Document

end Catalogue

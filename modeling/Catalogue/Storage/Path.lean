import Catalogue.Text.SystemBytes

/-!
Paths. Reading a spelling drops empty components and single dots and keeps everything else. An
absolute path is used that way; a relative one is followed from a base, component by component,
with every pair of dots taking the last component back.
-/

namespace Catalogue

/-- Where a path starts. Exactly two slashes in front are a root of their own. -/
inductive Root where
  | none
  | slash
  | doubleSlash
  deriving DecidableEq

structure Path where
  root : Root
  names : List Text
  deriving DecidableEq

def currentName : Text := "."
def parentName : Text := ".."

inductive PathRefusal where
  | unencodable
  | embeddedNull
  deriving DecidableEq

def PathRefusal.message : PathRefusal → Text
  | unencodable => "surrogates not allowed"
  | embeddedNull => "embedded null byte"

/-- Whether a text may be handed to the system: it has bytes, and none of them is zero. Of the
surrogates only those that keep a byte have one. -/
def Text.refusal? (text : Text) : Option PathRefusal :=
  if text.any fun code => code.isSurrogate && code.keptByte?.isNone then some .unencodable
  else if text.any (·.val = 0) then some .embeddedNull
  else none

namespace Path

def rootOf : Text → Root
  | first :: second :: third :: _ =>
    if first = '/' then
      if second = '/' ∧ third ≠ '/' then .doubleSlash else .slash
    else .none
  | [first, second] =>
    if first = '/' then if second = '/' then .doubleSlash else .slash else .none
  | [first] => if first = '/' then .slash else .none
  | [] => .none

def namesOf (spelling : Text) : List Text :=
  (spelling.splitOn '/').filter fun name => name ≠ [] ∧ name ≠ currentName

def ofText (spelling : Text) : Path := ⟨rootOf spelling, namesOf spelling⟩

def isAbsolute (path : Path) : Bool := path.root ≠ .none

def rootText : Root → Text
  | .none => []
  | .slash => "/"
  | .doubleSlash => "//"

def toText (path : Path) : Text :=
  if path.root = .none ∧ path.names = [] then currentName
  else rootText path.root ++ List.intercalate (Text.ofString "/") path.names

/-- Follows names from a place that is given backwards. At the root, two dots lead nowhere. -/
def follow (place : List Text) : List Text → List Text
  | [] => place.reverse
  | name :: names =>
    if name = parentName then follow place.tail names else follow (name :: place) names

/-- The absolute path of a spelling: an absolute one as it is, a relative one from a base. Every
name on the way is looked up, also one that is taken back. -/
def resolve (base : List Text) (spelling : Text) : Except PathRefusal Path :=
  let path := ofText spelling
  if path.isAbsolute then .ok path
  else match path.names.findSome? Text.refusal? with
    | some refusal => .error refusal
    | none => .ok ⟨.slash, follow base.reverse path.names⟩

def simplify (kept : List Text) : List Text → List Text
  | [] => kept.reverse
  | name :: names =>
    if name = parentName then
      match kept with
      | earlier :: others =>
        if earlier = parentName then simplify (name :: kept) names else simplify others names
      | [] => simplify [name] names
    else simplify (name :: kept) names

end Path

end Catalogue

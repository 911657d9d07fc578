import Catalogue.Storage.Path
import Catalogue.Text.Quoted

/-!
A file system as far as its paths show it: which of them name files, and with which bytes, and
which name directories. Names are bytes here, so that all spellings of a name lead to one entry.
Some paths are refused before any look-up, because no file can be named so. What is written takes
the place of what was there, and the directories on the way are made.
-/

namespace Catalogue

inductive Obstacle where
  | notFound
  | occupied
  | notDirectory
  | isDirectory
  | nameTooLong
  /-- Any other error of the system. One that strikes a file once it is open names no path. -/
  | other (number : Nat) (wording : Text) (isOpen : Bool)
    (unnamed : number ∉ [2, 17, 20, 21, 36])
  deriving DecidableEq

namespace Obstacle

def number : Obstacle → Nat
  | notFound => 2
  | occupied => 17
  | notDirectory => 20
  | isDirectory => 21
  | nameTooLong => 36
  | other number _ _ _ => number

def wording : Obstacle → Text
  | notFound => "No such file or directory"
  | occupied => "File exists"
  | notDirectory => "Not a directory"
  | isDirectory => "Is a directory"
  | nameTooLong => "File name too long"
  | other _ wording _ _ => wording

def namesPath : Obstacle → Bool
  | other _ _ isOpen _ => !isOpen
  | _ => true

def message (obstacle : Obstacle) (path : Text) : Text :=
  Text.ofString "[Errno " ++ Text.ofNat obstacle.number ++ Text.ofString "] " ++
    obstacle.wording ++
      if obstacle.namesPath then Text.ofString ": " ++ path.quoted else []

/-- Whether an error says that nothing is there. The numbers beside those of what is not found and
what lies in no directory are those of a descriptor that is gone and of links in a circle. -/
def isAbsence (obstacle : Obstacle) : Bool := [2, 9, 20, 40].contains obstacle.number

def isDenial (obstacle : Obstacle) : Bool := [1, 13].contains obstacle.number

end Obstacle

inductive Entry where
  | file (content : Bytes)
  | directory
  /-- A file that is there, and whose content is not to be had. -/
  | unreadable (obstacle : Obstacle)
  /-- A place where every look-up ends, also of what lies below. -/
  | barred (obstacle : Obstacle)
  deriving DecidableEq

def Entry.content : Entry → Except Obstacle Bytes
  | file content => .ok content
  | directory => .error .isDirectory
  | unreadable obstacle => .error obstacle
  | barred obstacle => .error obstacle

/-- The entries below the root, which is always a directory. -/
structure FileSystem where
  entries : List (List Bytes × Entry)

/-- The greatest number of bytes in a name, and in a path with the zero at its end. -/
def nameLimit : Nat := 255
def pathLimit : Nat := 4096

namespace FileSystem

def empty : FileSystem := ⟨[]⟩

def entry? (system : FileSystem) (place : List Bytes) : Option Entry :=
  if place = [] then some .directory
  else (system.entries.find? (·.1 = place)).map (·.2)

def walk (system : FileSystem) (place : List Bytes) : List Text → Except Obstacle (List Bytes)
  | [] => .ok place
  | name :: names =>
    match system.entry? place with
    | none => .error .notFound
    | some .directory =>
      if name = parentName then walk system place.dropLast names
      else if nameLimit < name.systemBytes.length then .error .nameTooLong
      else walk system (place ++ [name.systemBytes]) names
    | some (.barred obstacle) => .error obstacle
    | some _ => .error .notDirectory

def clear (system : FileSystem) (place : List Bytes) : FileSystem :=
  ⟨system.entries.filter fun (other, _) => !place.isPrefixOf other⟩

def lookUp (system : FileSystem) (path : Path) : Except Obstacle Entry :=
  if pathLimit ≤ path.toText.systemBytes.length then .error .nameTooLong
  else do
    let place ← system.walk [] path.names
    match system.entry? place with
    | none => .error .notFound
    | some (.barred obstacle) => .error obstacle
    | some entry => .ok entry

def refusal? (path : Path) : Option PathRefusal := path.toText.refusal?

def content (system : FileSystem) (path : Path) : Except Obstacle Bytes := do
  (← system.lookUp path).content

/-- Whether a path names a file, which need not be one that can be read. An error that does not say
that nothing is there is no answer. -/
def isFile (system : FileSystem) (path : Path) : Except Obstacle Bool :=
  if (refusal? path).isSome then .ok false
  else match system.lookUp path with
    | .ok .directory => .ok false
    | .ok _ => .ok true
    | .error obstacle => if obstacle.isAbsence then .ok false else .error obstacle

def isDirectory (system : FileSystem) (path : Path) : Bool :=
  (refusal? path).isNone &&
    match system.lookUp path with
    | .ok .directory => true
    | _ => false

def isDirectoryAt (system : FileSystem) (spelling : Text) : Bool :=
  spelling.systemBytes.length < pathLimit && system.isDirectory (Path.ofText spelling)

end FileSystem

inductive WriteFailure where
  | refused (refusal : PathRefusal)
  | obstructed (path : Path) (obstacle : Obstacle)
  deriving DecidableEq

def WriteFailure.message : WriteFailure → Text
  | refused refusal => refusal.message
  | obstructed path obstacle => obstacle.message path.toText

namespace FileSystem

def remove (system : FileSystem) (path : Path) : Except WriteFailure FileSystem :=
  if (refusal? path).isSome then .ok system
  else match system.lookUp path with
    | .error .nameTooLong => .error (.obstructed path .nameTooLong)
    | _ =>
      match system.walk [] path.names with
      | .ok place => .ok (system.clear place)
      | .error _ => .ok system

def ensureDirectory (system : FileSystem) (path : Path) : Except Obstacle FileSystem :=
  if pathLimit ≤ path.toText.systemBytes.length then .error .nameTooLong
  else do
    let place ← system.walk [] path.names
    match system.entry? place with
    | none => .ok ⟨(place, .directory) :: system.entries⟩
    | some .directory => .ok system
    | some (.barred obstacle) => .error obstacle
    | some _ => .error .occupied

def makeDirectories (system : FileSystem) : List Text → Except WriteFailure FileSystem
  | [] => .ok system
  | name :: earlier =>
    let path : Path := ⟨.slash, (name :: earlier).reverse⟩
    match system.ensureDirectory path with
    | .error .notFound => do
      let system ← makeDirectories system earlier
      (system.ensureDirectory path).mapError (.obstructed path)
    | result => result.mapError (.obstructed path)

def writeEntry (system : FileSystem) (path : Path) (entry : Entry) :
    Except Obstacle FileSystem := do
  let place ← system.walk [] path.names
  match system.entry? place with
  | some .directory => .error .isDirectory
  | _ => .ok ⟨(place, entry) :: system.entries⟩

def write (system : FileSystem) (path : Path) (entry : Entry) : Except WriteFailure FileSystem :=
  match refusal? path with
  | some refusal => .error (.refused refusal)
  | none => do
    let system ← system.remove path
    match entry with
    | .directory => system.makeDirectories path.names.reverse
    | entry =>
      let system ← system.makeDirectories path.names.reverse.tail
      (system.writeEntry path entry).mapError (.obstructed path)

end FileSystem

end Catalogue

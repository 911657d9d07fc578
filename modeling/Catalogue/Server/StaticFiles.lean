import Catalogue.Server.Address

/-!
Static files below a directory. A path of dots and slashes is followed as names, and what lies
outside the directory, or begins with a reverse solidus, is not found. A directory stands for the
index file in it. What is not found is answered with the file for missing pages, if there is one;
a path that no file can have is answered plainly.
-/

namespace Catalogue

def getMethod : Text := "GET"
def headMethod : Text := "HEAD"

def indexName : Text := "index.html"
def missingName : Text := "404.html"

namespace StaticFiles

/-- Whether a path is looked up among the files: it begins with a slash, and holds no line feed but
perhaps as its last character. -/
def covers (path : Text) : Bool :=
  path.startsWith "/" && !path.dropLast.contains CodePoint.lineFeed

/-- Whether names that lead on from a directory could be taken for an absolute path. -/
def isRooted (names : List Text) : Bool :=
  match names with
  | (code :: _) :: _ => code = CodePoint.reverseSolidus
  | _ => false

inductive Found where
  | file (content : Except Obstacle Bytes)
  | directory
  | nothing
  | refused
  | obstructed (obstacle : Obstacle)

def find (system : FileSystem) (directory names : List Text) : Found :=
  let place := Path.follow directory.reverse names
  let path : Path := ⟨.slash, place⟩
  if isRooted names then .nothing
  else if (FileSystem.refusal? path).isSome then .refused
  else if !directory.isPrefixOf place then .nothing
  else match system.lookUp path with
    | .ok .directory => .directory
    | .ok entry => .file entry.content
    | .error .notFound | .error .notDirectory => .nothing
    | .error obstacle => .obstructed obstacle

def obstructedResponse (obstacle : Obstacle) : Response :=
  if obstacle.isDenial then .ofMember 401 "detail" "Unauthorized"
  else if obstacle = .nameTooLong then .notFound
  else .ofCrash (.obstacle obstacle)

/-- The content of a file with a name. To a question for the headers alone the body is empty, and
else the file is opened when the headers are out. -/
def sendFile (request : Request) (status : Nat) (name : Text) (content : Except Obstacle Bytes) :
    Response :=
  let headers : Response := .ofText status (.ofFileName name) []
  if request.method = headMethod then headers
  else match content with
    | .ok content => { headers with body := Text.ofUtf8Replacing content }
    | .error obstacle => { headers with crash := some (.obstacle obstacle) }

def sendMissing (system : FileSystem) (directory : List Text) (request : Request) : Response :=
  match find system directory [missingName] with
  | .file content => sendFile request 404 missingName content
  | .obstructed obstacle => .ofCrash (.obstacle obstacle)
  | _ => .notFound

def respond (system : FileSystem) (directory : List Text) (request : Request) : Response :=
  if request.method ≠ getMethod ∧ request.method ≠ headMethod then
    .methodNotAllowed "GET, HEAD"
  else
    let names := Path.simplify [] (Path.namesOf request.path)
    match find system directory names with
    | .refused => .notFound
    | .obstructed obstacle => obstructedResponse obstacle
    | .file content => sendFile request 200 ((directory ++ names).getLast?.getD []) content
    | .nothing => sendMissing system directory request
    | .directory =>
      match find system directory (names ++ [indexName]) with
      | .file content =>
        if request.path.endsWith "/" then sendFile request 200 indexName content
        else .redirect request.directoryAddress
      | .refused => .notFound
      | .obstructed obstacle => .ofCrash (.obstacle obstacle)
      | _ => sendMissing system directory request

end StaticFiles

end Catalogue

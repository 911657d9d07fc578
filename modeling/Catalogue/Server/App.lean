import Catalogue.Server.Documentation
import Catalogue.Service
import Catalogue.Settings

/-!
The server: routes over one service, a few pages about them, and static files on every other path
if there is a directory for them. A response depends on the service, the file system and the
request; the service is what a request may change.
-/

namespace Catalogue

/-- A directory of static files. At its first use it is checked that it is still there. -/
structure StaticDirectory where
  names : List Text
  isChecked : Bool
  deriving DecidableEq

structure App where
  settings : Settings
  service : Service
  staticDirectory : Option StaticDirectory
  documentation : Documentation

namespace App

inductive SettingsFault where
  | untitled
  | unversioned
  | dataFile (refusal : PathRefusal)
  | missingDirectory (spelling : Text)
  deriving DecidableEq

def SettingsFault.message : SettingsFault → Text
  | untitled => "A title must be provided for OpenAPI, e.g.: 'My API'"
  | unversioned => "A version must be provided for OpenAPI, e.g.: '2.1.0'"
  | dataFile refusal => refusal.message
  | missingDirectory spelling =>
    Text.ofString "Directory '" ++ spelling ++ Text.ofString "' does not exist"

def note (message : Text) : Log.Entry := ⟨Log.Level.info, .application, message⟩

def findDirectory (system : FileSystem) (settings : Settings) :
    Except SettingsFault (Option StaticDirectory) :=
  match settings.staticDirectory.filter (· ≠ []) with
  | none => .ok none
  | some spelling =>
    if system.isDirectoryAt spelling then
      .ok (some ⟨Path.follow [] (Path.namesOf spelling), false⟩)
    else .error (.missingDirectory spelling)

def create (base : List Text) (system : FileSystem) (documentation : Documentation)
    (settings : Settings) : Except SettingsFault (App × List Log.Entry) := do
  if settings.title = [] then throw .untitled
  if settings.version = [] then throw .unversioned
  let path ← (settings.dataPath base).mapError .dataFile
  let directory ← findDirectory system settings
  let served := note (Text.ofString "Serving paintings from " ++ path.toText)
  let entries := match directory with
    | none => [served]
    | some _ =>
      [note (Text.ofString "Serving static files from " ++ settings.staticDirectory.getD []),
        served]
  .ok (⟨settings, Service.create path settings.keepsDocument, directory, documentation⟩, entries)

structure Outcome where
  app : App
  entries : List Log.Entry
  response : Response

def unreadableText : Text := "Error reading data file."

def failureEntry (request : Request) (message : Text) : Log.Entry :=
  ⟨Log.Level.error, .application, request.method ++ Text.ofString " " ++
    request.readPath ++ Text.ofString " failed: " ++ message⟩

def failureResponse (path : Text) (request : Request) :
    QueryFailure → Response × List Log.Entry
  | .notFound query => (.ofMember 404 "message" query.notFoundMessage, [])
  | .loading failure =>
    match failure with
    | .refused refusal => (.ofCrash (.path refusal), [])
    | .tooDeep => (.ofCrash .tooDeep, [])
    | failure =>
      (.ofText 500 .plain unreadableText, [failureEntry request (failure.message path)])

def answerQuery (app : App) (system : FileSystem) (request : Request) (query : Query) : Outcome :=
  let outcome := app.service.answer system query
  let app := { app with service := outcome.service }
  match outcome.answer with
  | .ok selection =>
    ⟨app, outcome.entries, .ofValue 200 (visibleValue selection.toValue)⟩
  | .error failure =>
    let (response, entries) := failureResponse app.service.path.toText request failure
    ⟨app, outcome.entries ++ entries, response⟩

/-- Whether the file of the document is there, without reading it. The path is written by a schema,
which takes no surrogates. -/
def healthResponse (app : App) (system : FileSystem) : Response :=
  match system.isFile app.service.path with
  | .error obstacle => .ofCrash (.obstacle obstacle)
  | .ok found =>
    if app.service.path.toText.any CodePoint.isSurrogate then .ofCrash .unserializable
    else .ofValue 200 (.object [(Text.ofString "status", .string "ok"),
      (Text.ofString "data_file", .string app.service.path.toText),
      (Text.ofString "data_file_exists", .boolean found)])

def followRoute (app : App) (system : FileSystem) (request : Request) : Route → Outcome
  | .query query => app.answerQuery system request query
  | .health => ⟨app, [], app.healthResponse system⟩

def otherSpelling (path : Text) : Text :=
  if path.endsWith "/" then path.dropTrailing '/' else path ++ Text.ofString "/"

def directoryAt? (app : App) (path : Text) : Option StaticDirectory :=
  if StaticFiles.covers path then app.staticDirectory else none

def isServed (app : App) (path : Text) : Bool :=
  (Page.ofPath? path).isSome || (Route.ofPath? path).isSome || (app.directoryAt? path).isSome

def unservedResponse (app : App) (request : Request) : Response :=
  let other := otherSpelling request.path
  if request.path ≠ "/" ∧ app.isServed other then .redirect (request.addressAt other)
  else .notFound

def followDirectory (app : App) (system : FileSystem) (request : Request)
    (directory : StaticDirectory) : Outcome :=
  let respond := StaticFiles.respond system directory.names request
  if directory.isChecked then ⟨app, [], respond⟩
  else match system.lookUp ⟨.slash, directory.names⟩ with
    | .ok .directory =>
      ⟨{ app with staticDirectory := some { directory with isChecked := true } }, [], respond⟩
    | .ok _ | .error .notFound => ⟨app, [], .ofCrash .noDirectory⟩
    | .error obstacle => ⟨app, [], .ofCrash (.obstacle obstacle)⟩

/-- What becomes of a request that nothing else answers: it goes to the static files, if there are
any for its path. -/
def respondAside (app : App) (system : FileSystem) (request : Request) (otherwise : Response) :
    Outcome :=
  match app.directoryAt? request.path with
  | none => ⟨app, [], otherwise⟩
  | some directory => app.followDirectory system request directory

def respond (app : App) (system : FileSystem) (request : Request) : Outcome :=
  match Page.ofPath? request.path, Route.ofPath? request.path with
  | some page, _ =>
    if Page.takesMethod request.method then ⟨app, [], app.documentation.respond page⟩
    else app.respondAside system request (.methodNotAllowed app.documentation.allowed)
  | none, some route =>
    if request.method = getMethod then app.followRoute system request route
    else app.respondAside system request (.methodNotAllowed "GET")
  | none, none => app.respondAside system request (app.unservedResponse request)

end App

end Catalogue

import Mathlib
import Catalogue.Proofs.Json.Strings
import Catalogue.Proofs.Server.Run

/-!
Static files beside the routes. A server with a directory of files and one without answer every
request on a route alike, and hold the same document, whatever the files are called and whatever
else is asked of the server that has them.
-/

namespace Catalogue

def Request.route? (request : Request) : Option Route :=
  if request.method = getMethod then Route.ofPath? request.path else none

theorem Request.query?_eq_route? (request : Request) :
    request.query? = request.route?.bind fun route =>
      match route with
      | .query query => some query
      | .health => none := by
  unfold query? route?
  cases Route.ofPath? request.path with
  | none => simp
  | some route => cases route <;> by_cases gets : request.method = getMethod <;> simp [gets]

theorem FileSystem.content_congr {left right : FileSystem} {path : Path}
    (same : left.lookUp path = right.lookUp path) : left.content path = right.content path := by
  rw [content, content, same]

theorem FileSystem.isFile_congr {left right : FileSystem} {path : Path}
    (same : left.lookUp path = right.lookUp path) : left.isFile path = right.isFile path := by
  rw [isFile, isFile, same]

theorem Service.load_congr {service : Service} {left right : FileSystem}
    (same : left.content service.path = right.content service.path) :
    service.load left = service.load right := by
  rw [load, load, Document.load_congr same]

theorem App.respond_of_health {app : App} {system : FileSystem} {request : Request}
    (asks : request.route? = some .health) :
    app.respond system request = ⟨app, [], app.healthResponse system⟩ := by
  unfold Request.route? at asks
  split_ifs at asks with gets
  rw [respond, Page.ofPath?_of_route asks, asks]
  exact if_pos gets

namespace Step

def isRouted : Step → Bool
  | send request => request.route?.isSome
  | _ => false

/-- Two runs that hold the same at a path after each change of the files, in which the same requests
on routes are sent. In the second other requests are sent too. -/
inductive Beside (path : Path) : List Step → List Step → Prop
  | done : Beside path [] []
  | files {left right : FileSystem} {steps others : List Step} :
      left.lookUp path = right.lookUp path → Beside path steps others →
      Beside path (.files left :: steps) (.files right :: others)
  | routed {request : Request} {steps others : List Step} : request.route?.isSome = true →
      Beside path steps others → Beside path (.send request :: steps) (.send request :: others)
  | aside {request : Request} {steps others : List Step} : request.route? = none →
      Beside path steps others → Beside path steps (.send request :: others)

end Step

namespace Site

def routedAnswers (site : Site) : List Step → List (Answer × Option Document)
  | [] => []
  | step :: steps =>
    let (next, answer) := site.step step
    if step.isRouted then (answer, next.app.service.kept) :: next.routedAnswers steps
    else next.routedAnswers steps

structure Alike (left right : Site) : Prop where
  service : left.app.service = right.app.service
  document : left.system.lookUp left.path = right.system.lookUp left.path

variable {left right : Site}

theorem Alike.path (alike : Alike left right) : right.path = left.path :=
  congrArg Service.path alike.service.symm

theorem Alike.step_query {request : Request} {query : Query} (alike : Alike left right)
    (asks : request.query? = some query) :
    (left.step (.send request)).2 = (right.step (.send request)).2 ∧
      Alike (left.step (.send request)).1 (right.step (.send request)).1 := by
  have asked : (Step.send request).query? = some query := asks
  have loads : left.app.service.load left.system = right.app.service.load right.system := by
    rw [← alike.service]
    exact Service.load_congr (FileSystem.content_congr alike.document)
  have path := alike.path
  constructor
  · rw [step_of_query asked, step_of_query asked, loads, path]
  · constructor
    · rw [step_of_query asked, step_of_query asked, loads]
      rfl
    · rw [step_path]
      exact alike.document

theorem Alike.step_health {request : Request} (alike : Alike left right)
    (asks : request.route? = some .health) :
    (left.step (.send request)).2 = (right.step (.send request)).2 ∧
      Alike (left.step (.send request)).1 (right.step (.send request)).1 := by
  have responses : left.app.healthResponse left.system = right.app.healthResponse right.system := by
    have found := FileSystem.isFile_congr alike.document
    unfold Site.path at found
    rw [App.healthResponse, App.healthResponse, ← alike.service, found]
  rw [Site.step, Site.step, App.respond_of_health asks, App.respond_of_health asks]
  exact ⟨congrArg (Answer.responded []) responses, alike⟩

theorem Alike.step_routed {request : Request} (alike : Alike left right)
    (asks : request.route?.isSome = true) :
    (left.step (.send request)).2 = (right.step (.send request)).2 ∧
      Alike (left.step (.send request)).1 (right.step (.send request)).1 := by
  obtain ⟨route, found⟩ := Option.isSome_iff_exists.mp asks
  cases route with
  | query query =>
      have asked : request.query? = some query := by
        rw [Request.query?_eq_route?, found]
        rfl
      exact alike.step_query asked
  | health => exact alike.step_health found

theorem Alike.step_aside {request : Request} (alike : Alike left right)
    (asks : request.route? = none) : Alike left (right.step (.send request)).1 := by
  have asked : (Step.send request).query? = none := by
    rw [Step.query?, Request.query?_eq_route?, asks]
    rfl
  constructor
  · rw [step_service right asked]
    exact alike.service
  · exact alike.document

theorem Alike.routedAnswers_eq {path : Path} {steps others : List Step}
    (alike : Alike left right) (same : left.path = path) (beside : Step.Beside path steps others) :
    left.routedAnswers steps = right.routedAnswers others := by
  induction beside generalizing left right with
  | done => rfl
  | @files plain serving steps others found _ ih =>
      have next : Alike ⟨left.app, plain⟩ ⟨right.app, serving⟩ := ⟨alike.service, same ▸ found⟩
      exact ih next same
  | @routed request steps others asks _ ih =>
      obtain ⟨answers, next⟩ := alike.step_routed asks
      have routed : (Step.send request).isRouted = true := asks
      rw [routedAnswers, routedAnswers]
      dsimp only
      rw [if_pos routed, if_pos routed, answers, next.service,
        ih next ((step_path left _).trans same)]
  | @aside request steps others asks _ ih =>
      have aside : (Step.send request).isRouted = false := by
        rw [Step.isRouted, asks, Option.isSome_none]
      rw [ih (alike.step_aside asks) same, routedAnswers.eq_def right]
      dsimp only
      rw [aside, if_neg Bool.false_ne_true]

end Site

/-! Servers of the same settings -/

namespace App

variable {base : List Text} {settings : Settings} {system : FileSystem} {app : App}
  {entries : List Log.Entry} {documentation : Documentation}

theorem of_create (made : create base system documentation settings = .ok (app, entries)) :
    settings.title ≠ [] ∧ settings.version ≠ [] ∧ ∃ path, settings.dataPath base = .ok path ∧
      app.service = Service.create path settings.keepsDocument := by
  unfold create at made
  by_cases untitled : settings.title = []
  · rw [if_pos untitled] at made
    exact absurd made nofun
  by_cases unversioned : settings.version = []
  · rw [if_neg untitled, if_pos unversioned] at made
    exact absurd made nofun
  rw [if_neg untitled, if_neg unversioned] at made
  obtain ⟨path, found, rest⟩ := Json.bind_eq_ok made
  obtain ⟨directory, _, done⟩ := Json.bind_eq_ok rest
  obtain ⟨rfl, _⟩ := Prod.mk.inj (Except.ok.inj done)
  refine ⟨untitled, unversioned, path, ?_, rfl⟩
  cases named : settings.dataPath base with
  | error refusal =>
      rw [named] at found
      exact absurd found nofun
  | ok place =>
      rw [named] at found
      rw [Except.ok.inj found]

theorem create_of_findDirectory (settings : Settings) {path : Path}
    {directory : Option StaticDirectory} (titled : settings.title ≠ []) (versioned : settings.version ≠ [])
    (found : settings.dataPath base = .ok path)
    (directed : findDirectory system settings = .ok directory) :
    ∃ entries, create base system documentation settings =
      .ok (⟨settings, Service.create path settings.keepsDocument, directory, documentation⟩,
        entries) := by
  unfold create
  rw [if_neg titled, if_neg versioned, found, directed]
  exact ⟨_, rfl⟩

theorem findDirectory_of_isDirectoryAt (settings : Settings) {directory : Text}
    (present : system.isDirectoryAt directory = true) :
    ∃ found, findDirectory system { settings with staticDirectory := some directory } =
      .ok found := by
  unfold findDirectory
  dsimp only
  rw [Option.filter_some]
  by_cases empty : directory = []
  · exact ⟨none, by simp [empty]⟩
  · simp [empty, present]

theorem create_withDirectory (made : create base system documentation settings = .ok (app, entries))
    {others : FileSystem} {directory : Text} (present : others.isDirectoryAt directory = true) :
    ∃ serving servingEntries,
      create base others documentation { settings with staticDirectory := some directory } =
        .ok (serving, servingEntries) ∧ app.service = serving.service := by
  obtain ⟨titled, versioned, path, found, service⟩ := of_create made
  obtain ⟨names, directed⟩ := findDirectory_of_isDirectoryAt settings present
  obtain ⟨servingEntries, makes⟩ := create_of_findDirectory
    { settings with staticDirectory := some directory } titled versioned found directed
  exact ⟨_, servingEntries, makes, service⟩

end App

/-- Given a directory of static files, a server answers the requests on its routes as it does with
other files or none, with the same log and the same document held, whatever the files are and
whatever else is asked of it. -/
theorem Site.static_files_aside {base : List Text} {settings : Settings} {system : FileSystem}
    {documentation : Documentation} {app : App} {entries : List Log.Entry}
    (made : App.create base system documentation settings = .ok (app, entries)) {others : FileSystem}
    {directory : Text} (present : others.isDirectoryAt directory = true)
    (same : system.lookUp app.service.path = others.lookUp app.service.path) :
    ∃ serving servingEntries,
      App.create base others documentation { settings with staticDirectory := some directory } =
        .ok (serving, servingEntries) ∧
      ∀ steps mixed, Step.Beside app.service.path steps mixed →
        routedAnswers ⟨app, system⟩ steps = routedAnswers ⟨serving, others⟩ mixed := by
  obtain ⟨serving, servingEntries, makes, service⟩ := App.create_withDirectory made present
  have alike : Alike ⟨app, system⟩ ⟨serving, others⟩ := ⟨service, same⟩
  exact ⟨serving, servingEntries, makes, fun steps mixed => alike.routedAnswers_eq rfl⟩

theorem Site.static_files_aside_names :
    let settings : Settings := { dataFile := "/p" }
    let app : App := ⟨settings, Service.create ⟨.slash, ["p"]⟩ false, none, .blank⟩
    let document : List Bytes × Entry := ([[0x70]], .file [0x5B, 0x5D])
    let names (path : List Text) : List Bytes := Text.systemBytes "w" :: path.map Text.systemBytes
    let system : FileSystem := ⟨[document]⟩
    let others : FileSystem := ⟨[document, (names [], .directory), (names ["api"], .directory),
      (names ["api", "paintings"], .file [0x78]), (names ["404.html"], .file [0x79])]⟩
    let send (method path : Text) : Step := .send ⟨method, [], path, []⟩
    let mixed := [send getMethod "/missing", send "POST" collectionPath,
      send getMethod collectionPath, send headMethod healthPath]
    ∃ serving servingEntries,
      App.create [] others .blank { settings with staticDirectory := some "/w" } =
        .ok (serving, servingEntries) ∧
      routedAnswers ⟨app, system⟩ [send getMethod collectionPath] =
        routedAnswers ⟨serving, others⟩ mixed := by
  intro settings app document names system others send mixed
  have made : App.create [] system .blank settings = .ok (app, _) := rfl
  have present : others.isDirectoryAt "/w" = true := by decide
  have same : system.lookUp app.service.path = others.lookUp app.service.path := by decide
  obtain ⟨serving, servingEntries, makes, answers⟩ := static_files_aside made present same
  refine ⟨serving, servingEntries, makes, answers _ mixed ?_⟩
  exact .aside rfl (.aside rfl (.routed rfl (.aside rfl .done)))

end Catalogue

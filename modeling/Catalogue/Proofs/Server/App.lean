import Mathlib
import Catalogue.Proofs.Server.Documentation
import Catalogue.Proofs.Service
import Catalogue.Server.App

/-!
What requests do with the service. A request that asks for a query is answered from what the service
loads; every other request leaves the service alone, and its response shows no more of the service
than the path.
-/

namespace Catalogue

def Request.query? (request : Request) : Option Query :=
  match Route.ofPath? request.path with
  | some (.query query) => if request.method = getMethod then some query else none
  | _ => none

namespace App

variable {app : App} {system : FileSystem} {request : Request} {query : Query} {service : Service}

def withService (app : App) (service : Service) : App := { app with service }

@[simp] theorem withService_service (app : App) (service : Service) :
    (app.withService service).service = service := rfl

def Outcome.withService (outcome : Outcome) (service : Service) : Outcome :=
  { outcome with app := outcome.app.withService service }

def responseTo (path : Text) (request : Request) :
    Except QueryFailure Selection → Response × List Log.Entry
  | .ok selection => (.ofValue 200 (visibleValue selection.toValue), [])
  | .error failure => failureResponse path request failure

theorem failureResponse_of_isDocumentFailure {failure : LoadFailure} (path : Text)
    (request : Request) (blames : failure.isDocumentFailure = true) :
    (failureResponse path request (.loading failure)).1 = .ofText 500 .plain unreadableText := by
  cases failure with
  | unavailable | corrupt => rfl
  | refused | tooDeep => exact absurd blames nofun

theorem answerQuery_eq (app : App) (system : FileSystem) (request : Request) (query : Query) :
    app.answerQuery system request query =
      let (service, loaded) := app.service.load system
      let path := app.service.path.toText
      let (response, entries) := responseTo path request (query.answerAfter loaded)
      ⟨app.withService service, query.entriesAfter path loaded ++ entries, response⟩ := by
  rw [answerQuery, Service.answer_eq]
  dsimp only
  rw [Service.load_path]
  cases query.answerAfter (app.service.load system).2 with
  | ok selection => rw [responseTo, List.append_nil]; rfl
  | error failure => rfl

theorem respond_of_query (asks : request.query? = some query) :
    app.respond system request = app.answerQuery system request query := by
  unfold Request.query? at asks
  split at asks
  · rename_i found route
    split_ifs at asks with gets
    obtain rfl := Option.some.inj asks
    rw [respond, Page.ofPath?_of_route route, route]
    exact if_pos gets
  · exact absurd asks nofun

/-! Other requests -/

theorem followDirectory_withService (directory : StaticDirectory) :
    (app.withService service).followDirectory system request directory =
      (app.followDirectory system request directory).withService service := by
  unfold followDirectory
  split_ifs
  · rfl
  · split <;> rfl

theorem respondAside_withService (otherwise : Response) :
    (app.withService service).respondAside system request otherwise =
      (app.respondAside system request otherwise).withService service := by
  have directories : (app.withService service).directoryAt? request.path =
      app.directoryAt? request.path := rfl
  rw [respondAside, respondAside, directories]
  cases app.directoryAt? request.path with
  | none => rfl
  | some directory => exact followDirectory_withService directory

theorem healthResponse_withService (path : service.path = app.service.path) :
    (app.withService service).healthResponse system = app.healthResponse system := by
  rw [healthResponse, healthResponse, withService_service, path]

theorem respond_withService (system : FileSystem) (asks : request.query? = none)
    (path : service.path = app.service.path) :
    (app.withService service).respond system request =
      (app.respond system request).withService service := by
  unfold Request.query? at asks
  rw [respond, respond]
  cases Page.ofPath? request.path with
  | some page =>
      dsimp only
      split_ifs
      · rfl
      · exact respondAside_withService _
  | none =>
      cases route : Route.ofPath? request.path with
      | none => exact respondAside_withService _
      | some found =>
          dsimp only
          split_ifs with gets
          · cases found with
            | query query => simp [route, gets] at asks
            | health =>
                rw [followRoute, followRoute, healthResponse_withService path]
                rfl
          · exact respondAside_withService _

end App

end Catalogue

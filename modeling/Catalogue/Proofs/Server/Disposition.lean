import Mathlib
import Catalogue.Proofs.Server.App
import Catalogue.Proofs.Server.Body
import Catalogue.Proofs.Server.Taker
import Catalogue.Proofs.Text.Digits

/-!
What becomes of a request where there are no static files. An endpoint handles it, or a page is
shown, or the method is refused, or there is a hint to the path without the slashes at its end, or
nothing is found: one of these for every request. Nothing takes a path with a slash at its end, so
that a hint is never followed by another.
-/

namespace Catalogue

inductive Disposition where
  | handled (endpoint : Endpoint) (given : List Text)
  | shown (page : Page)
  | refused (taker : Taker)
  | redirected (target : Text)
  | missing

namespace Disposition

/-- What becomes of a request, from its method and its path alone. -/
inductive Applies (request : Request) : Disposition → Prop
  | handled {endpoint : Endpoint} {given : List Text} :
      endpoint.parametersOf? request.path = some given → request.method = getMethod →
      Applies request (handled endpoint given)
  | shown {page : Page} : page.isAt request.path = true →
      request.method = getMethod ∨ request.method = headMethod → Applies request (shown page)
  | refused {taker : Taker} : taker.Takes request.path → ¬ taker.TakesMethod request.method →
      Applies request (refused taker)
  | redirected {taker : Taker} {target : Text} {slashes : Nat} :
      (∀ other : Taker, ¬ other.Takes request.path) →
      request.path = target ++ List.replicate (slashes + 1) (CodePoint.ofChar '/') →
      ¬ target.EndsWithSlash → taker.Takes target → Applies request (redirected target)
  | missing : (∀ taker : Taker, ¬ taker.Takes request.path) →
      (∀ (taker : Taker) target slashes,
        request.path = target ++ List.replicate (slashes + 1) (CodePoint.ofChar '/') →
          ¬ taker.Takes target) →
      Applies request missing

inductive Gives (app : App) (system : FileSystem) (request : Request) :
    Disposition → App.Outcome → Prop
  | handled {endpoint : Endpoint} {given : List Text} {route : Route} :
      endpoint.handle? given = some route →
      Gives app system request (handled endpoint given) (app.followRoute system request route)
  | shown {page : Page} :
      Gives app system request (shown page) ⟨app, [], app.documentation.respond page⟩
  | refused {taker : Taker} : Gives app system request (refused taker)
      ⟨app, [], .methodNotAllowed (taker.allowed app.documentation)⟩
  | redirected {target : Text} : Gives app system request (redirected target)
      ⟨app, [], ⟨307, none, some (request.addressAt target).percentEncoded, none, [], none⟩⟩
  | missing : Gives app system request missing ⟨app, [], .notFound⟩

variable {request : Request} {disposition other : Disposition}

theorem exists_applies_of_takes {taker : Taker} (takes : taker.Takes request.path) :
    ∃ disposition, Applies request disposition := by
  by_cases method : taker.TakesMethod request.method
  · cases taker with
    | endpoint endpoint =>
        obtain ⟨given, taken⟩ := Endpoint.takes_iff.mp takes
        exact ⟨_, Applies.handled taken method⟩
    | page page => exact ⟨_, Applies.shown takes method⟩
  · exact ⟨_, Applies.refused takes method⟩

theorem exists_applies (request : Request) : ∃ disposition, Applies request disposition := by
  by_cases taken : ∃ taker : Taker, taker.Takes request.path
  · obtain ⟨taker, takes⟩ := taken
    exact exists_applies_of_takes takes
  · have untaken : ∀ taker : Taker, ¬ taker.Takes request.path :=
      fun taker takes => taken ⟨taker, takes⟩
    by_cases hint : ∃ (taker : Taker) (target : Text) (slashes : Nat), request.path =
        target ++ List.replicate (slashes + 1) (CodePoint.ofChar '/') ∧ taker.Takes target
    · obtain ⟨taker, target, slashes, shape, takes⟩ := hint
      exact ⟨_, Applies.redirected untaken shape takes.not_endsWithSlash takes⟩
    · exact ⟨_, Applies.missing untaken fun taker target slashes shape takes =>
        hint ⟨taker, target, slashes, shape, takes⟩⟩

theorem Applies.unique (applies : Applies request disposition)
    (appliesToo : Applies request other) : disposition = other := by
  have taking {endpoint : Endpoint} {given : List Text}
      (taken : endpoint.parametersOf? request.path = some given) :
      (Taker.endpoint endpoint).Takes request.path :=
    Endpoint.takes_iff.mpr ⟨given, taken⟩
  have showing {page : Page} (here : page.isAt request.path = true) :
      (Taker.page page).Takes request.path := here
  cases applies with
  | handled taken gets =>
      cases appliesToo with
      | handled takenToo _ =>
          obtain rfl := Endpoint.eq_of_parametersOf? (taking taken) (taking takenToo)
          rw [Option.some.inj (taken.symm.trans takenToo)]
      | shown here => exact absurd (taking taken) (Taker.not_takes_endpoint here)
      | refused takes differs =>
          obtain rfl := (taking taken).unique takes
          exact absurd gets differs
      | redirected untaken | missing untaken => exact absurd (taking taken) (untaken _)
  | shown here method =>
      cases appliesToo with
      | handled taken => exact absurd (taking taken) (Taker.not_takes_endpoint here)
      | shown hereToo => rw [Page.eq_of_isAt here hereToo]
      | refused takesToo differs =>
          obtain rfl := (showing here).unique takesToo
          exact absurd method differs
      | redirected untaken | missing untaken => exact absurd (showing here) (untaken _)
  | refused takes differs =>
      cases appliesToo with
      | handled taken gets =>
          obtain rfl := takes.unique (taking taken)
          exact absurd gets differs
      | shown here method =>
          obtain rfl := takes.unique (showing here)
          exact absurd method differs
      | refused takesToo => rw [takes.unique takesToo]
      | redirected untaken | missing untaken => exact absurd takes (untaken _)
  | @redirected _ _ slashes untaken shape open_ takes =>
      cases appliesToo with
      | handled taken => exact absurd (taking taken) (untaken _)
      | shown here => exact absurd (showing here) (untaken _)
      | refused takes => exact absurd takes (untaken _)
      | redirected _ shapeToo openToo _ =>
          have same := Text.dropTrailing_append open_ (slashes + 1)
          rw [← shape, shapeToo, Text.dropTrailing_append openToo] at same
          rw [same]
      | missing _ none_ => exact absurd takes (none_ _ _ _ shape)
  | missing untaken none_ =>
      cases appliesToo with
      | handled taken => exact absurd (taking taken) (untaken _)
      | shown here => exact absurd (showing here) (untaken _)
      | refused takes => exact absurd takes (untaken _)
      | redirected _ shape _ takes => exact absurd takes (none_ _ _ _ shape)
      | missing => rfl

end Disposition

namespace App

variable {app : App} {system : FileSystem} {request : Request} {disposition : Disposition}

theorem directoryAt?_eq_none (alone : app.staticDirectory = none) (path : Text) :
    app.directoryAt? path = none := by
  rw [directoryAt?, alone, ite_self]

theorem respondAside_eq (alone : app.staticDirectory = none) (system : FileSystem)
    (otherwise : Response) :
    app.respondAside system request otherwise = ⟨app, [], otherwise⟩ := by
  rw [respondAside, directoryAt?_eq_none alone]

theorem isServed_iff (alone : app.staticDirectory = none) {path : Text} :
    app.isServed path = true ↔ ∃ taker : Taker, taker.Takes path := by
  rw [isServed, directoryAt?_eq_none alone, Option.isSome_none, Bool.or_false,
    Taker.exists_takes_iff]

theorem endsWithSlash_replicate (target : Text) (slashes : Nat) :
    (target ++ List.replicate (slashes + 1) (CodePoint.ofChar '/')).EndsWithSlash := by
  rw [Text.EndsWithSlash, List.replicate_succ', ← List.append_assoc, List.getLast?_concat]

theorem unservedResponse_redirect (alone : app.staticDirectory = none) {target : Text}
    {slashes : Nat} {taker : Taker} (takes : taker.Takes target)
    (shape : request.path = target ++ List.replicate (slashes + 1) (CodePoint.ofChar '/')) :
    app.unservedResponse request = .redirect (request.addressAt target) := by
  have ends : request.path.endsWith "/" = true := by
    rw [Text.endsWith_slash_iff, shape]
    exact endsWithSlash_replicate target slashes
  have other : otherSpelling request.path = target := by
    rw [otherSpelling, if_pos ends, shape, Text.dropTrailing_append takes.not_endsWithSlash]
  have present : request.path ≠ "/" := by
    intro root
    have empty : target = [] := by
      rw [← other, root]
      rfl
    have served := Taker.exists_takes_iff.mp ⟨taker, takes⟩
    rw [empty] at served
    exact absurd served (by decide)
  rw [unservedResponse, other, if_pos ⟨present, (isServed_iff alone).mpr ⟨taker, takes⟩⟩]

theorem unservedResponse_missing (alone : app.staticDirectory = none)
    (none_ : ∀ (taker : Taker) target slashes,
      request.path = target ++ List.replicate (slashes + 1) (CodePoint.ofChar '/') →
        ¬ taker.Takes target) :
    app.unservedResponse request = .notFound := by
  have unserved : ¬ app.isServed (otherSpelling request.path) = true := by
    rw [isServed_iff alone]
    rintro ⟨taker, takes⟩
    rw [otherSpelling] at takes
    split_ifs at takes with ends
    · obtain ⟨count, shape⟩ := Text.exists_eq_dropTrailing_append '/' request.path
      cases count with
      | zero =>
          rw [List.replicate_zero, List.append_nil] at shape
          rw [← shape] at takes
          exact takes.not_endsWithSlash (Text.endsWith_slash_iff.mp ends)
      | succ slashes => exact none_ taker _ slashes shape takes
    · exact takes.not_endsWithSlash (endsWithSlash_replicate request.path 0)
  rw [unservedResponse]
  exact if_neg fun both => unserved both.2

theorem respond_untaken (alone : app.staticDirectory = none) (system : FileSystem)
    (untaken : ∀ taker : Taker, ¬ taker.Takes request.path) :
    app.respond system request = ⟨app, [], app.unservedResponse request⟩ := by
  have unserved : ¬ ∃ taker : Taker, taker.Takes request.path :=
    fun ⟨taker, takes⟩ => untaken taker takes
  rw [Taker.exists_takes_iff, Bool.or_eq_true, not_or, Option.not_isSome_iff_eq_none,
    Option.not_isSome_iff_eq_none] at unserved
  rw [respond, unserved.1, unserved.2]
  exact respondAside_eq alone system _

theorem respond_page {page : Page} (here : page.isAt request.path = true) :
    app.respond system request =
      if Page.takesMethod request.method then ⟨app, [], app.documentation.respond page⟩
      else app.respondAside system request (.methodNotAllowed app.documentation.allowed) := by
  rw [respond, Page.ofPath?_eq_some.mpr here]

theorem respond_route {route : Route} (routed : Route.ofPath? request.path = some route) :
    app.respond system request =
      if request.method = getMethod then app.followRoute system request route
      else app.respondAside system request (.methodNotAllowed "GET") := by
  rw [respond, Page.ofPath?_of_route routed, routed]

theorem respond_gives (alone : app.staticDirectory = none) (system : FileSystem)
    (applies : disposition.Applies request) :
    disposition.Gives app system request (app.respond system request) := by
  cases applies with
  | handled taken gets =>
      obtain ⟨route, _, handled, routed⟩ := Endpoint.route_of_parametersOf? taken
      rw [respond_route routed, if_pos gets]
      exact Disposition.Gives.handled handled
  | shown here method =>
      rw [respond_page here, if_pos (Page.takesMethod_iff.mpr method)]
      exact Disposition.Gives.shown
  | @refused taker takes differs =>
      cases taker with
      | endpoint endpoint =>
          rw [Taker.takes_endpoint] at takes
          rw [Taker.takesMethod_endpoint] at differs
          obtain ⟨route, routed⟩ :=
            Option.isSome_iff_exists.mp (Endpoint.exists_takes_iff.mp ⟨endpoint, takes⟩)
          rw [respond_route routed, if_neg differs, respondAside_eq alone]
          exact Disposition.Gives.refused
      | page page =>
          rw [Taker.takes_page] at takes
          rw [Taker.takesMethod_page] at differs
          rw [respond_page takes, if_neg differs, respondAside_eq alone]
          exact Disposition.Gives.refused
  | redirected untaken shape _ takes =>
      rw [respond_untaken alone system untaken, unservedResponse_redirect alone takes shape]
      exact Disposition.Gives.redirected
  | missing untaken hintless =>
      rw [respond_untaken alone system untaken, unservedResponse_missing alone hintless]
      exact Disposition.Gives.missing

end App

namespace Response

/-- A method is refused, another path hinted at, or no path found. -/
def IsAside (response : Response) : Prop :=
  response.status = 405 ∨ response.status = 307 ∨ response = .notFound

theorem not_isAside_of_status {response : Response}
    (status : response.status = 200 ∨ response.status = 500) : ¬ response.IsAside := by
  rintro (same | same | rfl)
  · rw [same] at status
    exact absurd status (by decide)
  · rw [same] at status
    exact absurd status (by decide)
  · exact absurd status (by decide)

theorem respond_page_not_isAside (documentation : Documentation) (page : Page) :
    ¬ (documentation.respond page).IsAside := by
  apply not_isAside_of_status
  rw [Documentation.respond]
  split_ifs
  · exact Or.inr rfl
  · exact Or.inl rfl

theorem ofValue_status (status : Nat) (value : Json.Value) :
    (ofValue status value).status = status ∨ (ofValue status value).status = 500 := by
  rw [ofValue]
  split_ifs
  · exact Or.inr rfl
  · exact Or.inl rfl

theorem ofMember_message_not_isAside (text : Text) : ¬ (ofMember 404 "message" text).IsAside := by
  have status := ofValue_status 404 (.object [(Text.ofString "message", .string text)])
  rw [← ofMember] at status
  rintro (refused | hinted | same)
  · rw [refused] at status
    exact absurd status (by decide)
  · rw [hinted] at status
    exact absurd status (by decide)
  · rw [ofMember, ofValue] at same
    split_ifs at same
    · exact absurd (congrArg Response.status same) (by decide)
    · -- The third character of the body is the first of the key.
      have third := congrArg (fun response : Response => response.body[2]?) same
      have letter : notFound.body[2]? = some (CodePoint.ofChar 'd') := by decide
      change some (CodePoint.ofChar 'm') = notFound.body[2]? at third
      rw [letter] at third
      exact absurd third (by decide)

end Response

namespace App

theorem failureResponse_not_isAside (path : Text) (request : Request) (failure : QueryFailure) :
    ¬ (failureResponse path request failure).1.IsAside := by
  cases failure with
  | notFound query => exact Response.ofMember_message_not_isAside _
  | loading failure =>
      cases failure <;> exact Response.not_isAside_of_status (Or.inr rfl)

theorem followRoute_not_isAside (app : App) (system : FileSystem) (request : Request)
    (route : Route) : ¬ (app.followRoute system request route).response.IsAside := by
  cases route with
  | query query =>
      rw [followRoute, answerQuery_eq]
      dsimp only
      cases query.answerAfter (app.service.load system).2 with
      | ok selection => exact Response.not_isAside_of_status (Response.ofValue_status 200 _)
      | error failure => exact failureResponse_not_isAside _ request failure
  | health =>
      apply Response.not_isAside_of_status
      rw [followRoute, healthResponse]
      split
      · exact Or.inr rfl
      · split_ifs
        · exact Or.inr rfl
        · exact Response.ofValue_status 200 _

end App

namespace Disposition

variable {app : App} {system later : FileSystem} {request : Request} {disposition : Disposition}
  {outcome other : App.Outcome}

theorem Gives.handled_not_isAside {endpoint : Endpoint} {given : List Text}
    (gives : (Disposition.handled endpoint given).Gives app system request outcome) :
    ¬ outcome.response.IsAside := by
  cases gives with
  | @handled _ _ route => exact App.followRoute_not_isAside app system request route

theorem Gives.shown_not_isAside {page : Page}
    (gives : (Disposition.shown page).Gives app system request outcome) :
    ¬ outcome.response.IsAside := by
  cases gives with
  | shown => exact Response.respond_page_not_isAside app.documentation page

theorem Gives.eq_of_isAside (gives : disposition.Gives app system request outcome)
    (aside : outcome.response.IsAside) (service : Service)
    (givesToo : disposition.Gives (app.withService service) later request other) :
    other = ⟨app.withService service, [], outcome.response⟩ := by
  cases gives with
  | @handled _ _ route => exact absurd aside (App.followRoute_not_isAside app system request route)
  | shown | refused | redirected | missing =>
      cases givesToo
      rfl

theorem Gives.exists_of_status (gives : disposition.Gives app system request outcome)
    (hint : outcome.response.status = 307) :
    ∃ target, disposition = Disposition.redirected target ∧
      outcome.response.location = some (request.addressAt target).percentEncoded := by
  cases gives with
  | @handled _ _ route =>
      exact absurd (Or.inr (Or.inl hint)) (App.followRoute_not_isAside app system request route)
  | @shown page =>
      exact absurd (Or.inr (Or.inl hint)) (Response.respond_page_not_isAside app.documentation page)
  | @redirected target => exact ⟨target, rfl, rfl⟩
  | refused => exact absurd (show 405 = 307 from hint) (by decide)
  | missing => exact absurd (show 404 = 307 from hint) (by decide)

end Disposition

namespace App

variable {app : App} {system : FileSystem} {request : Request} {taker : Taker}

theorem respond_status_ne (alone : app.staticDirectory = none) (system : FileSystem)
    (takes : taker.Takes request.path) : (app.respond system request).response.status ≠ 307 := by
  intro hint
  obtain ⟨disposition, applies⟩ := Disposition.exists_applies request
  obtain ⟨target, rfl, _⟩ := (respond_gives alone system applies).exists_of_status hint
  cases applies with
  | redirected untaken => exact untaken taker takes

/-- Of the dispositions one applies to a request, and the response is what it gives. A hint is to
the path without the slashes at its end, which one endpoint or page takes, so that there is no hint
from there. No handler and no page refuses, hints or finds no path, and whatever does so loads
nothing. -/
theorem respond_dispositions (alone : app.staticDirectory = none) (system : FileSystem)
    (request : Request) :
    let outcome := app.respond system request
    (∃! disposition, Disposition.Applies request disposition) ∧
    (∀ disposition, Disposition.Applies request disposition →
      disposition.Gives app system request outcome) ∧
    (∀ endpoint given, Disposition.Applies request (.handled endpoint given) →
      ¬ outcome.response.IsAside) ∧
    (∀ page, Disposition.Applies request (.shown page) → ¬ outcome.response.IsAside) ∧
    (outcome.response.status = 307 → ∃ target slashes,
      request.path = target ++ List.replicate (slashes + 1) (CodePoint.ofChar '/') ∧
        ¬ target.EndsWithSlash ∧
        outcome.response.location = some (request.addressAt target).percentEncoded ∧
        (∃! taker : Taker, taker.Takes target) ∧
        ∀ (other : App) (later : FileSystem), other.staticDirectory = none →
          (other.respond later { request with path := target }).response.status ≠ 307) ∧
    (¬ request.path.EndsWithSlash → outcome.response.status ≠ 307) ∧
    (outcome.response.IsAside → ∀ (service : Service) (later : FileSystem),
        (app.withService service).respond later request =
          ⟨app.withService service, [], outcome.response⟩) := by
  intro outcome
  obtain ⟨disposition, applies⟩ := Disposition.exists_applies request
  have gives : disposition.Gives app system request outcome := respond_gives alone system applies
  have hinted (hint : outcome.response.status = 307) : ∃ target slashes,
      request.path = target ++ List.replicate (slashes + 1) (CodePoint.ofChar '/') ∧
        ¬ target.EndsWithSlash ∧
        outcome.response.location = some (request.addressAt target).percentEncoded ∧
        ∃ taker : Taker, taker.Takes target := by
    obtain ⟨target, rfl, location⟩ := gives.exists_of_status hint
    cases applies with
    | @redirected taker _ slashes _ shape open_ takes =>
        exact ⟨target, slashes, shape, open_, location, taker, takes⟩
  refine ⟨⟨disposition, applies, fun _ appliesToo => appliesToo.unique applies⟩,
    fun _ => respond_gives alone system,
    fun _ _ handled => (respond_gives alone system handled).handled_not_isAside,
    fun _ shown => (respond_gives alone system shown).shown_not_isAside, fun hint => ?_,
    fun open_ hint => ?_, fun aside service later => ?_⟩
  · obtain ⟨target, slashes, shape, open_, location, taker, takes⟩ := hinted hint
    exact ⟨target, slashes, shape, open_, location,
      ⟨taker, takes, fun _ takesToo => takesToo.unique takes⟩,
      fun other later aloneToo => respond_status_ne aloneToo later takes⟩
  · obtain ⟨target, slashes, shape, _⟩ := hinted hint
    rw [shape] at open_
    exact open_ (endsWithSlash_replicate target slashes)
  · have aloneToo : (app.withService service).staticDirectory = none := alone
    exact gives.eq_of_isAside aside service (respond_gives aloneToo later applies)

theorem respond_dispositions_slashes :
    let app : App := ⟨.default, Service.create ⟨.slash, ["p"]⟩ false, none, .blank⟩
    let request : Request := ⟨"POST", "http://a", "/api/paintings//", "b"⟩
    (app.respond .empty request).response.location = some "http://a/api/paintings?b" ∧
      ∀ service later, (app.withService service).respond later request =
        ⟨app.withService service, [], (app.respond .empty request).response⟩ := by
  intro app request
  have location : (app.respond .empty request).response.location =
      some "http://a/api/paintings?b" := by decide +kernel
  have hint : (app.respond .empty request).response.status = 307 := by decide +kernel
  exact ⟨location,
    (respond_dispositions rfl .empty request).2.2.2.2.2.2 (Or.inr (Or.inl hint))⟩

/-- Pages, which no endpoint takes, are shown to methods other than GET, and hinted at. -/
theorem pages_past_endpoints :
    let app : App := ⟨.default, Service.create ⟨.slash, ["p"]⟩ false, none, .blank⟩
    let shown := (app.respond .empty ⟨headMethod, "http://a", "/docs", []⟩).response
    let hint := (app.respond .empty ⟨getMethod, "http://a", "/docs/", []⟩).response
    shown.status = 200 ∧ hint.status = 307 ∧ hint.location = some "http://a/docs" ∧
      ∀ endpoint : Endpoint, ¬ endpoint.Takes "/docs" := by
  intro app shown hint
  refine ⟨by decide +kernel, by decide +kernel, by decide +kernel, fun endpoint => ?_⟩
  exact @Taker.not_takes_endpoint "/docs" endpoint .explorer (by decide)

end App

end Catalogue

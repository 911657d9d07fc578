import Mathlib
import Catalogue.Proofs.Server.Pattern
import Catalogue.Server.App

/-!
The endpoints of the server, each with a pattern of its own. A path fills at most one of the
patterns, so that the order in which they are tried is of no account. The paths that are built for
queries fill the patterns of their endpoints, and no others do, but for a line feed after a path
that ends with a word.
-/

namespace Catalogue

inductive Endpoint where
  | all
  | gallery
  | artist
  | years
  | painting
  | health
  deriving DecidableEq

def Query.endpoint : Query → Endpoint
  | all => .all
  | painting _ => .painting
  | gallery _ => .gallery
  | artist _ => .artist
  | years _ _ => .years

def Route.endpoint : Route → Endpoint
  | query asked => asked.endpoint
  | health => .health

/-- The paths of a query: the one that is built for it, and for the list of everything the same
with a line feed after it. -/
def Query.HasPath (query : Query) (path : Text) : Prop :=
  path = query.toPath ∨ query = .all ∧ path = query.toPath ++ [CodePoint.lineFeed]

namespace Query

theorem of_ofPieces? {rest : Text} {pieces : List Text} {query : Query}
    (split : Text.splitOn '/' rest = [] :: pieces) (asks : ofPieces? pieces = some query) :
    (∀ parameter ∈ query.parameters, parameter.IsParameter) ∧
      collectionPath ++ rest = query.toPath := by
  unfold ofPieces? at asks
  -- There is a case for each number of pieces.
  split at asks
  · obtain rfl := Option.some.inj asks
    obtain ⟨rfl, _⟩ := of_splitOn_single split
    exact ⟨nofun, List.append_nil _⟩
  · split_ifs at asks with empty
    obtain rfl := Option.some.inj asks
    obtain ⟨text, rfl, _, later⟩ := of_splitOn_more split
    obtain ⟨rfl, apart⟩ := of_splitOn_single later
    refine ⟨List.forall_mem_singleton.mpr ⟨empty, apart⟩, ?_⟩
    simp only [Query.toPath, List.append_assoc, List.nil_append]
  · rename_i word identifier
    obtain ⟨text, rfl, _, later⟩ := of_splitOn_more split
    obtain ⟨rest, rfl, _, last⟩ := of_splitOn_more later
    obtain ⟨rfl, apart⟩ := of_splitOn_single last
    split_ifs at asks with empty isGallery isArtist
    · obtain rfl := Option.some.inj asks
      refine ⟨List.forall_mem_singleton.mpr ⟨empty, apart⟩, ?_⟩
      simp only [Query.toPath, isGallery, List.append_assoc, List.nil_append]
    · obtain rfl := Option.some.inj asks
      refine ⟨List.forall_mem_singleton.mpr ⟨empty, apart⟩, ?_⟩
      simp only [Query.toPath, isArtist, List.append_assoc, List.nil_append]
  · rename_i word least greatest
    split_ifs at asks with isRange
    obtain rfl := Option.some.inj asks
    obtain ⟨rfl, givenLeast, givenGreatest⟩ := isRange
    obtain ⟨text, rfl, _, later⟩ := of_splitOn_more split
    obtain ⟨rest, rfl, _, bounds⟩ := of_splitOn_more later
    obtain ⟨last, rfl, apartLeast, ending⟩ := of_splitOn_more bounds
    obtain ⟨rfl, apartGreatest⟩ := of_splitOn_single ending
    refine ⟨List.forall_mem_cons.mpr ⟨⟨givenLeast, apartLeast⟩,
      List.forall_mem_singleton.mpr ⟨givenGreatest, apartGreatest⟩⟩, ?_⟩
    simp only [Query.toPath, List.append_assoc, List.nil_append]
  · cases asks

theorem hasPath_of_ofRest? {rest : Text} {query : Query} (asks : ofRest? rest = some query) :
    (∀ parameter ∈ query.parameters, parameter.IsParameter) ∧
      query.HasPath (collectionPath ++ rest) := by
  unfold ofRest? at asks
  split_ifs at asks with ended
  · obtain rfl := Option.some.inj asks
    refine ⟨nofun, ?_⟩
    rcases Pattern.isPathEnd_iff.mp ended with rfl | rfl
    · exact Or.inl (List.append_nil _)
    · exact Or.inr ⟨rfl, rfl⟩
  · split at asks
    · rename_i pieces split
      obtain ⟨addressable, path⟩ := of_ofPieces? split asks
      exact ⟨addressable, Or.inl path⟩
    · exact absurd asks nofun

end Query

namespace Endpoint

def registered : List Endpoint := [all, gallery, artist, years, painting, health]

def operation : Endpoint → Operation
  | all => Operation.all[0]
  | artist => Operation.all[1]
  | gallery => Operation.all[2]
  | years => Operation.all[3]
  | painting => Operation.all[4]
  | health => Operation.all[5]

def parametersOf? (endpoint : Endpoint) (path : Text) : Option (List Text) :=
  endpoint.operation.pattern.fill? path

def handle? : Endpoint → List Text → Option Route
  | all, [] => some (.query .all)
  | gallery, [identifier] => some (.query (.gallery identifier))
  | artist, [identifier] => some (.query (.artist identifier))
  | years, [least, greatest] => some (.query (.years least greatest))
  | painting, [identifier] => some (.query (.painting identifier))
  | health, [] => some .health
  | _, _ => none

def route? (endpoint : Endpoint) (path : Text) : Option Route :=
  (endpoint.parametersOf? path).bind endpoint.handle?

theorem mem_registered (endpoint : Endpoint) : endpoint ∈ registered := by
  cases endpoint <;> decide

theorem operation_pattern (endpoint : Endpoint) :
    endpoint.operation.pattern =
      match endpoint with
      | all => [some "api", some "paintings"]
      | gallery => [some "api", some "paintings", some galleryWord, none]
      | artist => [some "api", some "paintings", some artistWord, none]
      | years => [some "api", some "paintings", some yearWord, none, none]
      | painting => [some "api", some "paintings", none]
      | health => [some "health"] := by
  cases endpoint <;> rfl

/-! Paths of endpoints -/

theorem parametersOf?_eq_some {endpoint : Endpoint} {path : Text} {given : List Text} :
    endpoint.parametersOf? path = some given ↔
      Pattern.Fills endpoint.operation.pattern given path :=
  Pattern.fill?_eq_some

theorem parametersOf?_of_hasPath {query : Query} {path : Text}
    (addressable : ∀ parameter ∈ query.parameters, parameter.IsParameter)
    (has : query.HasPath path) : query.endpoint.parametersOf? path = some query.parameters := by
  rw [parametersOf?_eq_some, operation_pattern]
  cases query with
  | all =>
      apply Pattern.fills_collection.mpr
      rcases has with rfl | ⟨_, rfl⟩
      · exact ⟨[], (List.append_nil _).symm, Pattern.fills_end.mpr ⟨rfl, Or.inl rfl⟩⟩
      · exact ⟨_, rfl, Pattern.fills_end.mpr ⟨rfl, Or.inr rfl⟩⟩
  | painting identifier =>
      have isParameter := addressable identifier List.mem_cons_self
      exact Pattern.fills_identifier.mpr ⟨identifier, rfl, isParameter, has.resolve_right nofun⟩
  | gallery identifier | artist identifier =>
      have isParameter := addressable identifier List.mem_cons_self
      exact Pattern.fills_named.mpr ⟨identifier, rfl, isParameter, has.resolve_right nofun⟩
  | years least greatest =>
      have isLeast := addressable least List.mem_cons_self
      have isGreatest := addressable greatest (List.mem_cons_of_mem _ List.mem_cons_self)
      exact Pattern.fills_range.mpr
        ⟨least, greatest, rfl, isLeast, isGreatest, has.resolve_right nofun⟩

theorem exists_query {endpoint : Endpoint} {path : Text} {given : List Text}
    (asks : endpoint ≠ health) (taken : endpoint.parametersOf? path = some given) :
    ∃ query : Query, query.endpoint = endpoint ∧ query.parameters = given ∧
      (∀ parameter ∈ given, parameter.IsParameter) ∧ query.HasPath path := by
  rw [parametersOf?_eq_some, operation_pattern] at taken
  cases endpoint with
  | health => exact absurd rfl asks
  | all =>
      obtain ⟨rest, rfl, ended⟩ := Pattern.fills_collection.mp taken
      obtain ⟨rfl, rfl | rfl⟩ := Pattern.fills_end.mp ended
      · exact ⟨.all, rfl, rfl, nofun, Or.inl (List.append_nil _)⟩
      · exact ⟨.all, rfl, rfl, nofun, Or.inr ⟨rfl, rfl⟩⟩
  | painting =>
      obtain ⟨identifier, rfl, isParameter, path⟩ := Pattern.fills_identifier.mp taken
      exact ⟨.painting identifier, rfl, rfl, List.forall_mem_singleton.mpr isParameter, Or.inl path⟩
  | gallery =>
      obtain ⟨identifier, rfl, isParameter, path⟩ := Pattern.fills_named.mp taken
      exact ⟨.gallery identifier, rfl, rfl, List.forall_mem_singleton.mpr isParameter, Or.inl path⟩
  | artist =>
      obtain ⟨identifier, rfl, isParameter, path⟩ := Pattern.fills_named.mp taken
      exact ⟨.artist identifier, rfl, rfl, List.forall_mem_singleton.mpr isParameter, Or.inl path⟩
  | years =>
      obtain ⟨least, greatest, rfl, isLeast, isGreatest, path⟩ := Pattern.fills_range.mp taken
      exact ⟨.years least greatest, rfl, rfl, List.forall_mem_cons.mpr
        ⟨isLeast, List.forall_mem_singleton.mpr isGreatest⟩, Or.inl path⟩

theorem parametersOf?_health {path : Text} {given : List Text} :
    health.parametersOf? path = some given ↔
      given = [] ∧ (path = healthPath ∨ path = healthPath ++ [CodePoint.lineFeed]) := by
  rw [parametersOf?_eq_some, operation_pattern]
  constructor
  · intro fills
    obtain ⟨rest, rfl, ended⟩ := Pattern.fills_word.mp fills
    obtain ⟨rfl, rfl | rfl⟩ := Pattern.fills_end.mp ended
    · exact ⟨rfl, Or.inl rfl⟩
    · exact ⟨rfl, Or.inr rfl⟩
  · rintro ⟨rfl, rfl | rfl⟩
    · exact Pattern.fills_word.mpr ⟨[], rfl, Pattern.fills_end.mpr ⟨rfl, Or.inl rfl⟩⟩
    · exact Pattern.fills_word.mpr ⟨_, rfl, Pattern.fills_end.mpr ⟨rfl, Or.inr rfl⟩⟩

theorem handle?_parameters (query : Query) :
    query.endpoint.handle? query.parameters = some (.query query) := by
  cases query <;> rfl

theorem ofPath?_of_hasPath {query : Query} {path : Text}
    (addressable : ∀ parameter ∈ query.parameters, parameter.IsParameter)
    (has : query.HasPath path) : Route.ofPath? path = some (.query query) := by
  rcases has with rfl | ⟨rfl, rfl⟩
  · exact Route.ofPath?_toPath addressable
  · rfl

theorem ofPath?_healthPath {path : Text}
    (asks : path = healthPath ∨ path = healthPath ++ [CodePoint.lineFeed]) :
    Route.ofPath? path = some .health := by
  rcases asks with rfl | rfl <;> rfl

theorem route_of_parametersOf? {endpoint : Endpoint} {path : Text} {given : List Text}
    (taken : endpoint.parametersOf? path = some given) :
    ∃ route : Route, route.endpoint = endpoint ∧ endpoint.handle? given = some route ∧
      Route.ofPath? path = some route := by
  by_cases asks : endpoint = health
  · subst asks
    obtain ⟨rfl, has⟩ := parametersOf?_health.mp taken
    exact ⟨.health, rfl, rfl, ofPath?_healthPath has⟩
  · obtain ⟨query, rfl, rfl, addressable, has⟩ := exists_query asks taken
    exact ⟨.query query, rfl, handle?_parameters query, ofPath?_of_hasPath addressable has⟩

theorem ofPath?_of_route? {endpoint : Endpoint} {path : Text} {route : Route}
    (found : endpoint.route? path = some route) : Route.ofPath? path = some route := by
  obtain ⟨given, taken, handled⟩ := Option.bind_eq_some_iff.mp found
  obtain ⟨same, _, handledToo, routed⟩ := route_of_parametersOf? taken
  rw [routed, ← handledToo, handled]

theorem eq_of_parametersOf? {path : Text} {first second : Endpoint}
    (taken : (first.parametersOf? path).isSome = true)
    (takenToo : (second.parametersOf? path).isSome = true) : first = second := by
  obtain ⟨_, taken⟩ := Option.isSome_iff_exists.mp taken
  obtain ⟨_, takenToo⟩ := Option.isSome_iff_exists.mp takenToo
  obtain ⟨route, rfl, _, routed⟩ := route_of_parametersOf? taken
  obtain ⟨other, rfl, _, routedToo⟩ := route_of_parametersOf? takenToo
  rw [routed] at routedToo
  rw [Option.some.inj routedToo]

theorem exists_route? {path : Text} {route : Route} (found : Route.ofPath? path = some route) :
    ∃ endpoint : Endpoint, endpoint.route? path = some route := by
  unfold Route.ofPath? at found
  split_ifs at found with isHealth
  · obtain rfl := Option.some.inj found
    refine ⟨health, ?_⟩
    cases after : path.after? healthPath with
    | none => simp [after] at isHealth
    | some rest =>
        rw [after, Option.any_some] at isHealth
        have taken : health.parametersOf? path = some [] := by
          rw [Json.of_after? after, parametersOf?_eq_some, operation_pattern]
          exact Pattern.Fills.word (Pattern.Fills.done isHealth)
        rw [route?, taken]
        rfl
  · obtain ⟨query, asks, rfl⟩ := Option.map_eq_some_iff.mp found
    obtain ⟨rest, after, asks⟩ := Option.bind_eq_some_iff.mp asks
    obtain ⟨addressable, has⟩ := Query.hasPath_of_ofRest? asks
    refine ⟨query.endpoint, ?_⟩
    rw [Json.of_after? after, route?, parametersOf?_of_hasPath addressable has, Option.bind_some,
      handle?_parameters]

end Endpoint

def Route.first? (order : List Endpoint) (path : Text) : Option Route :=
  order.findSome? (·.route? path)

theorem Route.first?_eq_ofPath? {order : List Endpoint} (perm : order.Perm Endpoint.registered)
    (path : Text) : first? order path = ofPath? path := by
  cases found : ofPath? path with
  | none =>
      rw [first?, List.findSome?_eq_none_iff]
      intro endpoint _
      cases given : endpoint.route? path with
      | none => rfl
      | some route =>
          rw [Endpoint.ofPath?_of_route? given] at found
          exact absurd found nofun
  | some route =>
      obtain ⟨endpoint, given⟩ := Endpoint.exists_route? found
      have tried : (first? order path).isSome = true := by
        rw [first?, List.findSome?_isSome_iff]
        exact ⟨endpoint, perm.mem_iff.mpr endpoint.mem_registered, by rw [given, Option.isSome_some]⟩
      obtain ⟨other, first⟩ := Option.isSome_iff_exists.mp tried
      obtain ⟨taker, _, taken⟩ := List.exists_of_findSome?_eq_some first
      rw [first, ← found, Endpoint.ofPath?_of_route? taken]

namespace App

/-- A server that tries its endpoints in a given order. -/
def respondIn (order : List Endpoint) (app : App) (system : FileSystem) (request : Request) :
    Outcome :=
  let other := otherSpelling request.path
  match Page.ofPath? request.path, Route.first? order request.path with
  | some page, _ =>
    if Page.takesMethod request.method then ⟨app, [], app.documentation.respond page⟩
    else app.respondAside system request (.methodNotAllowed app.documentation.allowed)
  | none, some route =>
    if request.method = getMethod then app.followRoute system request route
    else app.respondAside system request (.methodNotAllowed "GET")
  | none, none =>
    app.respondAside system request (if request.path ≠ "/" ∧
        ((Page.ofPath? other).isSome || (Route.first? order other).isSome ||
          (app.directoryAt? other).isSome) then
      .redirect (request.addressAt other) else .notFound)

theorem respondIn_eq_respond {order : List Endpoint} (perm : order.Perm Endpoint.registered)
    (app : App) (system : FileSystem) (request : Request) :
    app.respondIn order system request = app.respond system request := by
  have same : Route.first? order = Route.ofPath? := funext (Route.first?_eq_ofPath? perm)
  unfold respondIn
  rw [same]
  rfl

end App

namespace Endpoint

/-- The path that is built for a query is taken by the endpoint of the query and by no other, with
the parameters as they were given. An endpoint takes only paths that are built for its queries from
the parameters it finds, and for the list of everything that path with a line feed after it. No
path has two endpoints, and so their order changes no response. -/
theorem takes_built_paths :
    (∀ query : Query, (∀ parameter ∈ query.parameters, parameter.IsParameter) →
      ∀ endpoint : Endpoint, endpoint.parametersOf? query.toPath =
        if endpoint = query.endpoint then some query.parameters else none) ∧
    (∀ endpoint path given, endpoint ≠ health → endpoint.parametersOf? path = some given →
      ∃ query : Query, query.endpoint = endpoint ∧ query.parameters = given ∧
        (∀ parameter ∈ given, parameter.IsParameter) ∧
        (path = query.toPath ∨ query = .all ∧ path = query.toPath ++ [CodePoint.lineFeed])) ∧
    (∀ path (first second : Endpoint), (first.parametersOf? path).isSome = true →
      (second.parametersOf? path).isSome = true → first = second) ∧
    ∀ order : List Endpoint, order.Perm registered → ∀ app system request,
      App.respondIn order app system request = app.respond system request := by
  refine ⟨fun query addressable endpoint => ?_, fun endpoint path given asks taken => ?_,
    fun path first second => eq_of_parametersOf?, fun order perm => App.respondIn_eq_respond perm⟩
  · have taken := parametersOf?_of_hasPath addressable (Or.inl rfl)
    split_ifs with same
    · rw [same, taken]
    · cases other : endpoint.parametersOf? query.toPath with
      | none => rfl
      | some given =>
          have isSome : (endpoint.parametersOf? query.toPath).isSome = true := by
            rw [other, Option.isSome_some]
          have isSomeToo : (query.endpoint.parametersOf? query.toPath).isSome = true := by
            rw [taken, Option.isSome_some]
          exact absurd (eq_of_parametersOf? isSome isSomeToo) same
  · exact exists_query asks taken

theorem takes_built_paths_word :
    painting.parametersOf? (Query.painting galleryWord).toPath = some [galleryWord] ∧
      gallery.parametersOf? (Query.painting galleryWord).toPath = none ∧
      ∀ app system request,
        App.respondIn registered.reverse app system request = app.respond system request := by
  have parameter : ∀ given ∈ (Query.painting galleryWord).parameters, given.IsParameter := by
    intro given member
    obtain rfl := List.mem_singleton.mp member
    exact ⟨by decide, by decide⟩
  obtain ⟨takes, _, _, responds⟩ := takes_built_paths
  exact ⟨takes (.painting galleryWord) parameter .painting,
    takes (.painting galleryWord) parameter .gallery,
    responds registered.reverse (List.reverse_perm registered)⟩

/-- The list of everything is also taken from a path that is built for no query. -/
theorem all_takes_line_feed :
    ¬ ∀ endpoint path given, endpoint ≠ health → endpoint.parametersOf? path = some given →
      ∃ query : Query, query.endpoint = endpoint ∧ query.parameters = given ∧
        path = query.toPath := by
  intro built
  obtain ⟨query, same, _, path⟩ := built all "/api/paintings\n" [] (by decide) (by rfl)
  cases query with
  | all => exact absurd path (by decide)
  | painting | gallery | artist | years => exact absurd same nofun

end Endpoint

end Catalogue

import Mathlib
import Catalogue.Proofs.Client.Messages
import Catalogue.Proofs.Server.Body
import Catalogue.Proofs.Server.Route
import Catalogue.Proofs.Server.Run

/-!
A client that asks a server gets what the service answers: the selected paintings as they are, and
for a query that finds nothing, or a document that cannot be loaded, the message and the status.
-/

namespace Catalogue

theorem Site.step_keepsRead {site : Site} (read : site.app.service.KeepsRead) (step : Step) :
    (site.step step).1.app.service.KeepsRead := by
  cases asks : step.query? with
  | none => rwa [Site.step_service site asks]
  | some query =>
      rw [Site.step_of_query asks]
      exact (read.load site.system).1

theorem Site.run_keepsRead {site : Site} (read : site.app.service.KeepsRead) (steps : List Step) :
    (site.run steps).app.service.KeepsRead := by
  induction steps generalizing site with
  | nil => exact read
  | cons step steps ih => exact ih (Site.step_keepsRead read step)

namespace Query

theorem hasNoSurrogates_notFoundMessage {query : Query}
    (plain : ∀ parameter ∈ query.parameters, parameter.HasNoSurrogates) :
    query.notFoundMessage.HasNoSurrogates := by
  cases query with
  | years least greatest =>
      have low := plain least List.mem_cons_self
      have high := plain greatest (List.mem_cons_of_mem _ List.mem_cons_self)
      simp [notFoundMessage, low, high]
  | _ => simp [notFoundMessage]

theorem notFoundMessage_ne_nil {query : Query} {document : Document}
    (nothing : query.select document = none) : query.notFoundMessage ≠ [] := by
  cases query with
  | all => exact absurd nothing nofun
  | years => exact nofun
  | _ => exact nofun

end Query

namespace Client

theorem interpretReply_value {address : Text} {reply : Reply} {value : Json.Value}
    (fine : reply.status = 200) (body : reply.value = .ok value) :
    (interpretReply address reply).2 = .ok (.ok value) := by
  have isFine : reply.IsFine := Or.inl (by omega)
  rw [interpretReply_read isFine body]

theorem interpretReply_error {address : Text} {reply : Reply} {message : Json.Value}
    (client : 400 ≤ reply.status) (server : reply.status < 600)
    (found : ∀ complaint, errorMessage reply complaint = .ok message) :
    (interpretReply address reply).2 = .ok (.error ⟨some reply.status, message⟩) := by
  rw [interpretReply_rejection ⟨client, server⟩ (found _)]
  rfl

theorem errorMessage_member {reply : Reply} {message : Text} (given : message ≠ [])
    (body : reply.value = .ok (.object [("message", .string message)])) (complaint : Text) :
    errorMessage reply complaint = .ok (.string message) := by
  have isGiven : (Json.Value.string message).isGiven = true := isGiven_string.mpr given
  have inside : messageIn (.object [("message", .string message)]) = .string message := by
    rw [messageIn]
    exact if_pos isGiven
  rw [errorMessage, body]
  dsimp only
  rw [inside, orElse, if_pos isGiven]

theorem errorMessage_text {reply : Reply} {fault : Json.Fault} {position : Json.Position}
    (given : reply.text ≠ []) (body : reply.value = .error (.fault fault position))
    (complaint : Text) : errorMessage reply complaint = .ok (.string reply.text) := by
  rw [errorMessage_unread body nofun, if_neg given]

theorem requestFor_address (base : Text) (query : Query) :
    requestFor base (address base query) =
      ⟨getMethod, base.dropTrailing '/', query.toPath, []⟩ := by
  rw [requestFor, address, Json.after?_append]
  rfl

theorem query?_requestFor {query : Query}
    (addressable : ∀ parameter ∈ query.parameters, parameter.IsParameter) (base : Text) :
    (requestFor base (address base query)).query? = some query := by
  rw [requestFor_address, Request.query?, Route.ofPath?_toPath addressable]
  exact if_pos rfl

theorem ask_result {query : Query}
    (addressable : ∀ parameter ∈ query.parameters, parameter.IsParameter) (app : App)
    (system : FileSystem) (base : Text) :
    (ask base (serverExchange app system base) query).result =
      (interpretReply (address base query) ((App.responseTo app.service.path.toText
        (requestFor base (address base query))
        (app.service.answer system query).answer).1.toReply (address base query))).2 := by
  have responds : app.respond system (requestFor base (address base query)) = _ :=
    App.respond_of_query (query?_requestFor addressable base)
  have reply :
      interpret (address base query) (serverExchange app system base (address base query)) =
        interpretReply (address base query)
          ((app.respond system (requestFor base (address base query))).response.toReply
            (address base query)) := rfl
  rw [ask, reply, responds, App.answerQuery_eq, Service.answer_eq]

/-! The three kinds of answers -/

section

variable {app : App} {request : Request} {path address : Text} {query : Query}
  {loaded : Except LoadFailure Document}

theorem interpretReply_selection {selection : Selection}
    (read : ∀ document, loaded = .ok document → ∃ bytes, Document.ofBytes bytes = .ok document)
    (answered : query.answerAfter loaded = .ok selection)
    (shown : selection.toValue.HasNoHiddenKeys) (plain : selection.toValue.HasNoSurrogates) :
    (interpretReply address ((App.responseTo path request (.ok selection)).1.toReply address)).2 =
      .ok (.ok selection.toValue) := by
  obtain ⟨document, from_, selected⟩ := Query.of_answerAfter_ok answered
  obtain ⟨bytes, done⟩ := read document from_
  -- The selection is read at the client with the budget that the document was read with.
  obtain ⟨text, within⟩ := Document.derives_of_ofBytes done
  have writes : Json.Writes Json.Style.compact
      (Json.Grammar.DerivesWithin .lenient Json.depthLimit) selection.toValue :=
    Selection.writes rfl within (Query.paintings_subset selected)
  rw [App.responseTo, visibleValue_eq shown]
  exact interpretReply_value (by rw [Response.toReply_status plain]; rfl)
    (Response.toReply_value plain writes 200 address)

theorem interpretReply_notFound (plain : ∀ parameter ∈ query.parameters, parameter.HasNoSurrogates)
    {document : Document} (nothing : query.select document = none) :
    (interpretReply address
        ((App.responseTo path request (.error (.notFound query))).1.toReply address)).2 =
      .ok (.error ⟨some 404, .string query.notFoundMessage⟩) := by
  have sendable := Json.Value.hasNoSurrogates_member (Text.hasNoSurrogates_ofString "message")
    (Query.hasNoSurrogates_notFoundMessage plain)
  have status := Response.toReply_status sendable 404 address
  have body := Response.toReply_value sendable (writes_member rfl (Json.depthLimit - 2) _ _) 404
    address
  have response : (App.responseTo path request (.error (.notFound query))).1 =
      .ofMember 404 "message" query.notFoundMessage := rfl
  rw [response, Response.ofMember, interpretReply_error (by rw [status]; decide)
    (by rw [status]; decide) (errorMessage_member (Query.notFoundMessage_ne_nil nothing) body),
    status]
  rfl

theorem interpretReply_loading {failure : LoadFailure}
    (blames : failure.isDocumentFailure = true) :
    (interpretReply address
        ((App.responseTo path request (.error (.loading failure))).1.toReply address)).2 =
      .ok (.error ⟨some 500, .string App.unreadableText⟩) := by
  have response : (App.responseTo path request (.error (.loading failure))).1 =
      .ofText 500 .plain App.unreadableText :=
    App.failureResponse_of_isDocumentFailure path request blames
  let reply : Reply := ⟨500, none, address, App.unreadableText, App.unreadableText⟩
  have sent : (Response.ofText 500 .plain App.unreadableText).toReply address = reply :=
    Response.toReply_ofText (Text.hasNoSurrogates_ofString _) 500 .plain address
  have body : reply.value =
      .error (.fault .expectedValue (Json.Position.after App.unreadableText 0)) := by rfl
  have client : 400 ≤ reply.status := show (400 : Int) ≤ 500 by decide
  have server : reply.status < 600 := show (500 : Int) < 600 by decide
  have given : reply.text ≠ [] := show App.unreadableText ≠ [] by decide
  rw [response, sent, interpretReply_error client server (errorMessage_text given body)]

end

/-- The client over the server is the service, at every point of a run: what the service selects is
what the client gets, if all of it is sent and can be; a query that finds nothing and a document
that cannot be loaded are told apart by status and message. -/
theorem ask_answer (site : Site) (keeps : Bool) (steps : List Step) (base : Text) (query : Query)
    (addressable : ∀ parameter ∈ query.parameters,
      parameter.IsParameter ∧ parameter.HasNoSurrogates) :
    let current := (site.renewed keeps).run steps
    let answer := (current.app.service.answer current.system query).answer
    let asked := (ask base (serverExchange current.app current.system base) query).result
    (∀ selection, answer = .ok selection → selection.toValue.HasNoHiddenKeys →
      selection.toValue.HasNoSurrogates → asked = .ok (.ok selection.toValue)) ∧
    (∀ missing, answer = .error (.notFound missing) →
      missing = query ∧ asked = .ok (.error ⟨some 404, .string query.notFoundMessage⟩)) ∧
    ∀ failure, answer = .error (.loading failure) → failure.isDocumentFailure = true →
      asked = .ok (.error ⟨some 500, .string App.unreadableText⟩) := by
  intro current answer asked
  have read : current.app.service.KeepsRead :=
    Site.run_keepsRead (Service.keepsRead_create site.path keeps) steps
  have result : asked = (interpretReply (address base query)
      ((App.responseTo current.app.service.path.toText (requestFor base (address base query))
        answer).1.toReply (address base query))).2 :=
    ask_result (fun parameter member => (addressable parameter member).1) current.app
      current.system base
  have after : answer = query.answerAfter (current.app.service.load current.system).2 :=
    congrArg Service.Outcome.answer (Service.answer_eq ..)
  refine ⟨fun selection answered shown plain => ?_, fun missing answered => ?_,
    fun failure answered blames => ?_⟩
  · rw [result, answered]
    exact interpretReply_selection (read.load current.system).2 (after ▸ answered) shown plain
  · obtain ⟨rfl, document, _, nothing⟩ := Query.of_answerAfter_notFound (after ▸ answered)
    refine ⟨rfl, ?_⟩
    rw [result, answered]
    exact interpretReply_notFound (fun parameter member => (addressable parameter member).2) nothing
  · rw [result, answered]
    exact interpretReply_loading blames

/-- The painting of `[{"paintingID":"year"}]` comes from a document that is kept after its file is
gone. The bounds of a range go into the message as they are given. -/
theorem ask_answer_year :
    let site : Site := ⟨⟨.default, Service.create ⟨.slash, ["p"]⟩ true, none, .blank⟩,
      ⟨[([[0x70]], .file [0x5B, 0x7B, 0x22, 0x70, 0x61, 0x69, 0x6E, 0x74, 0x69, 0x6E, 0x67, 0x49,
        0x44, 0x22, 0x3A, 0x22, 0x79, 0x65, 0x61, 0x72, 0x22, 0x7D, 0x5D])]⟩⟩
    let current := (site.renewed true).run [.ask .all, .files .empty]
    let exchange := serverExchange current.app current.system "http://host/"
    (ask "http://host/" exchange (.painting "year")).result =
        .ok (.ok (.object [("paintingID", .string "year")])) ∧
      (ask "http://host/" exchange (.years "1e" "2e")).result =
        .ok (.error ⟨some 404, .string "No paintings made in the range 1e - 2e"⟩) := by
  intro site current exchange
  have parameter {text : Text} (given : text ≠ []) (apart : CodePoint.ofChar '/' ∉ text)
      (plain : text.any CodePoint.isSurrogate = false) :
      text.IsParameter ∧ text.HasNoSurrogates :=
    ⟨⟨given, apart⟩, Text.any_isSurrogate_iff.mp plain⟩
  have word : ∀ given ∈ (Query.painting "year").parameters,
      given.IsParameter ∧ given.HasNoSurrogates :=
    List.forall_mem_singleton.mpr (parameter (by decide) (by decide) (by decide))
  have bounds : ∀ given ∈ (Query.years "1e" "2e").parameters,
      given.IsParameter ∧ given.HasNoSurrogates :=
    List.forall_mem_cons.mpr ⟨parameter (by decide) (by decide) (by decide),
      List.forall_mem_singleton.mpr (parameter (by decide) (by decide) (by decide))⟩
  have shown : (Json.Value.object [("paintingID", .string "year")]).HasNoHiddenKeys := by
    intro members within member inside
    cases within with
    | self =>
        rw [List.mem_singleton.mp inside]
        decide
    | member here deeper =>
        obtain ⟨rfl, rfl⟩ := Prod.mk.inj (List.mem_singleton.mp here)
        cases deeper
  constructor
  · exact (ask_answer site true [.ask .all, .files .empty] "http://host/" (.painting "year")
      word).1 (.one ⟨[("paintingID", .string "year")]⟩) rfl shown
        (Json.Value.hasNoSurrogates_member (Text.hasNoSurrogates_ofString _)
          (Text.hasNoSurrogates_ofString _))
  · exact ((ask_answer site true [.ask .all, .files .empty] "http://host/" (.years "1e" "2e")
      bounds).2.1 (.years "1e" "2e") rfl).2

end Client

end Catalogue

import Mathlib
import Catalogue.Proofs.Server.App
import Catalogue.Proofs.Server.Body

/-!
The list of everything as it is sent. A value comes back as it was just when it has no hidden keys
and no surrogates: hidden keys are left out at every depth, and surrogates end the response.
-/

namespace Catalogue

open Json.Grammar

theorem mem_visibleItems {items : List Json.Value} {item : Json.Value} :
    item ∈ visibleItems items ↔ ∃ original ∈ items, visibleValue original = item := by
  rw [visibleItems_eq_map, List.mem_map]

theorem mem_visibleMembers {members : Json.Members} {key : Text} {value : Json.Value} :
    (key, value) ∈ visibleMembers members ↔ key.startsWith hiddenBeginning = false ∧
      ∃ original, (key, original) ∈ members ∧ visibleValue original = value := by
  simp only [visibleMembers_eq_map, List.mem_map, List.mem_filter, Prod.mk.injEq, Prod.exists,
    Bool.not_eq_eq_eq_not, Bool.not_true]
  constructor
  · rintro ⟨_, original, ⟨within, shown⟩, rfl, same⟩
    exact ⟨shown, original, within, same⟩
  · rintro ⟨shown, original, within, same⟩
    exact ⟨key, original, ⟨within, shown⟩, rfl, same⟩

theorem keys_visibleMembers (members : Json.Members) :
    ((visibleMembers members).map Prod.fst).Sublist (members.map Prod.fst) := by
  rw [visibleMembers_eq_map, List.map_map]
  exact List.filter_sublist.map Prod.fst

theorem visibleValue_hasNoHiddenKeys (value : Json.Value) :
    (visibleValue value).HasNoHiddenKeys := by
  induction value using Json.Value.induction with
  | null | boolean | integer | double | string =>
      intro members within
      rw [visibleValue] at within
      · cases within
      all_goals simp
  | array items ih =>
      intro members within member inside
      rw [visibleValue] at within
      cases within with
      | item inner deeper =>
          obtain ⟨original, from_, rfl⟩ := mem_visibleItems.mp inner
          exact ih original from_ members deeper member inside
  | object others ih =>
      intro members within member inside
      rw [visibleValue] at within
      cases within with
      | self => exact (mem_visibleMembers.mp inside).1
      | member inner deeper =>
          obtain ⟨_, original, from_, rfl⟩ := mem_visibleMembers.mp inner
          exact ih _ from_ members deeper member inside

theorem visibleValue_eq_iff {value : Json.Value} :
    visibleValue value = value ↔ value.HasNoHiddenKeys := by
  constructor
  · intro same
    rw [← same]
    exact visibleValue_hasNoHiddenKeys value
  · exact visibleValue_eq

theorem visibleValue_derives {policy : Json.Policy} {style : Json.Style} {budget : Nat}
    {text : Text} {value : Json.Value} (unescaped : style.asciiOnly = false)
    (within : DerivesWithin policy budget text value) (writable : value.IsWritable style) :
    Json.Writes style (DerivesWithin policy budget) (visibleValue value) := by
  induction budget generalizing text value with
  | zero => exact within.elim
  | succ budget ih =>
      have spelled : Rule policy (DerivesWithin policy budget) text value := within
      cases value with
      | null | boolean | integer | double | string =>
          rw [visibleValue]
          · exact Json.writeValue_derives within writable
          all_goals simp
      | array items =>
          rw [visibleValue]
          refine Json.writeArray fun item member => ?_
          obtain ⟨original, from_, rfl⟩ := mem_visibleItems.mp member
          obtain ⟨inner, derives⟩ := spelled.exists_of_item from_
          exact ih derives (writable.of_part (.item from_ (.self original)))
      | object members =>
          rw [visibleValue]
          have distinct := writable.keys members (Json.Value.Part.self _)
          refine Json.writeObject (distinct.sublist (keys_visibleMembers members))
            (by simp [unescaped]) ?_
          rintro ⟨key, value⟩ member
          obtain ⟨_, original, from_, rfl⟩ := mem_visibleMembers.mp member
          obtain ⟨inner, derives⟩ := spelled.exists_of_member from_
          exact ih derives (writable.of_part (.member from_ (.self original)))

namespace Response

structure Carries (response : Response) (value : Json.Value) : Prop where
  status : response.status = 200
  mediaType : response.mediaType = some .json
  crash : response.crash = none
  body : ∀ address, (response.toReply address).value = .ok value

theorem ofValue_carries {value : Json.Value}
    (writes : Json.Writes Json.Style.compact (DerivesWithin .lenient Json.depthLimit) value)
    (plain : value.HasNoSurrogates) : (ofValue 200 value).Carries value := by
  have sent := ofValue_of_hasNoSurrogates plain 200
  constructor
  · rw [sent]
    rfl
  · rw [sent]
    rfl
  · rw [sent]
    rfl
  · exact toReply_value plain writes 200

theorem ofValue_of_surrogates {value : Json.Value} (surrogates : ¬ value.HasNoSurrogates)
    (status : Nat) : ofValue status value = ofCrash .unencodable := by
  have unsendable : (value.write Json.Style.compact).any CodePoint.isSurrogate = true := by
    by_contra sendable
    have plain := Text.any_isSurrogate_iff.mp (Bool.eq_false_iff.mpr sendable)
    exact surrogates (value.writesSurrogates rfl 0 plain).1
  rw [ofValue, if_pos unsendable]

theorem Carries.unique {response : Response} {value other : Json.Value}
    (carries : response.Carries value) (carriesOther : response.Carries other) : value = other :=
  Except.ok.inj ((carries.body []).symm.trans (carriesOther.body []))

end Response

/-! The list -/

namespace App

variable {app : App} {system : FileSystem} {request : Request} {document : Document}

theorem response_of_loaded {query : Query} {selection : Selection}
    (asks : request.query? = some query) (loaded : (app.service.load system).2 = .ok document)
    (selected : query.select document = some selection) :
    (app.respond system request).response = .ofValue 200 (visibleValue selection.toValue) := by
  rw [respond_of_query asks, answerQuery_eq]
  dsimp only
  rw [loaded, Query.answerAfter, Query.answerOver_of_some selected]
  rfl

theorem query?_collectionPath (gets : request.method = getMethod)
    (path : request.path = collectionPath) : request.query? = some .all := by
  have route : Route.ofPath? collectionPath = some (.query .all) := rfl
  rw [Request.query?, path, route]
  exact if_pos gets

theorem load_of_ofBytes {service : Service} {bytes : Bytes}
    (held : service.kept = none ∨ service.kept = some document)
    (lookedUp : FileSystem.refusal? service.path = none)
    (content : system.content service.path = .ok bytes)
    (accepted : Document.ofBytes bytes = .ok document) :
    (service.load system).2 = .ok document := by
  rcases held with none | kept
  · rw [Service.load_snd none, Document.load, lookedUp]
    dsimp only
    rw [content]
    exact accepted
  · rw [Service.load_of_kept kept]

/-- The list of everything comes back as the document in the file just when the document has no
hidden keys and no surrogates. With hidden keys all the rest comes back, no deeper than it was; with
surrogates in what is left the response is a crash. -/
theorem respond_list (app : App) (system : FileSystem) (request : Request)
    (gets : request.method = getMethod) (path : request.path = collectionPath)
    (held : app.service.kept = none ∨ app.service.kept = some document)
    (lookedUp : FileSystem.refusal? app.service.path = none) {bytes : Bytes}
    (content : system.content app.service.path = .ok bytes)
    (shallow : ∀ text, Text.ofFile? bytes = some text → text.nesting ≤ 90)
    (accepted : Document.ofBytes bytes = .ok document) :
    let response := (app.respond system request).response
    (response.Carries document.toValue ↔
      document.toValue.HasNoHiddenKeys ∧ document.toValue.HasNoSurrogates) ∧
    ((visibleValue document.toValue).HasNoSurrogates →
      response.Carries (visibleValue document.toValue) ∧
        DerivesWithin .lenient 91 response.body (visibleValue document.toValue)) ∧
    (¬ (visibleValue document.toValue).HasNoSurrogates → response = .ofCrash .unencodable) := by
  intro response
  have loaded := load_of_ofBytes held lookedUp content accepted
  have sent : response = .ofValue 200 (visibleValue document.toValue) :=
    response_of_loaded (query?_collectionPath gets path) loaded rfl
  obtain ⟨text, within⟩ := Document.derivesWithin_of_ofBytes shallow accepted
  have derives := within.derives
  have writes : Json.Writes Json.Style.compact (DerivesWithin .lenient 91)
      (visibleValue document.toValue) :=
    visibleValue_derives rfl within.lenient ⟨derives.hasFiniteDoubles, derives.hasFewDigits,
      derives.hasDistinctKeys, nofun⟩
  have carries (plain : (visibleValue document.toValue).HasNoSurrogates) :
      response.Carries (visibleValue document.toValue) := by
    rw [sent]
    exact Response.ofValue_carries (writes.imp fun within => within.mono (by decide)) plain
  have body (plain : (visibleValue document.toValue).HasNoSurrogates) :
      DerivesWithin .lenient 91 response.body (visibleValue document.toValue) := by
    rw [sent, Response.ofValue_of_hasNoSurrogates plain]
    exact writes.write
  have crashes (surrogates : ¬ (visibleValue document.toValue).HasNoSurrogates) :
      response = .ofCrash .unencodable := by
    rw [sent]
    exact Response.ofValue_of_surrogates surrogates 200
  refine ⟨⟨fun carried => ?_, fun ⟨shown, plain⟩ => ?_⟩, fun plain => ⟨carries plain, body plain⟩,
    crashes⟩
  · have plain : (visibleValue document.toValue).HasNoSurrogates := by
      by_contra surrogates
      have crash := carried.crash
      rw [crashes surrogates] at crash
      exact absurd crash nofun
    have same := (carries plain).unique carried
    rw [same] at plain
    exact ⟨visibleValue_eq_iff.mp same, plain⟩
  · have same := visibleValue_eq shown
    rw [same] at carries
    exact carries plain

theorem respond_list_short_key :
    let app : App := ⟨.default, Service.create ⟨.slash, ["p"]⟩ false, none, .blank⟩
    let system : FileSystem := ⟨[([[0x70]],
      .file [0x5B, 0x7B, 0x22, 0x5F, 0x73, 0x22, 0x3A, 0x7B, 0x7D, 0x7D, 0x5D])]⟩
    (app.respond system ⟨getMethod, [], collectionPath, []⟩).response.Carries
      (.array [.object [("_s", .object [])]]) := by
  intro app system
  have accepted : Document.ofBytes [0x5B, 0x7B, 0x22, 0x5F, 0x73, 0x22, 0x3A, 0x7B, 0x7D, 0x7D,
      0x5D] = .ok [⟨[("_s", .object [])]⟩] := by rfl
  have few : (Text.ofFile? [0x5B, 0x7B, 0x22, 0x5F, 0x73, 0x22, 0x3A, 0x7B, 0x7D, 0x7D,
      0x5D]).all (·.nesting ≤ 90) = true := by decide +kernel
  have shallow (text : Text) (decoded : Text.ofFile? [0x5B, 0x7B, 0x22, 0x5F, 0x73, 0x22, 0x3A,
      0x7B, 0x7D, 0x7D, 0x5D] = some text) : text.nesting ≤ 90 := by
    rw [decoded] at few
    exact of_decide_eq_true few
  refine (respond_list app system ⟨getMethod, [], collectionPath, []⟩ rfl rfl (Or.inl rfl) rfl rfl
    shallow accepted).1.mpr ⟨visibleValue_eq_iff.mp rfl, ?_⟩
  refine Json.Value.hasNoSurrogates_array (List.forall_mem_singleton.mpr ?_)
  refine Json.Value.hasNoSurrogates_object (List.forall_mem_singleton.mpr ⟨?_, ?_⟩)
  · exact Text.hasNoSurrogates_ofString "_s"
  · exact Json.Value.hasNoSurrogates_object (List.forall_mem_nil _)

/-- The member of `[{"_sa":1}]` is not sent, and `[{"a":"\ud800"}]` cannot be sent. -/
theorem list_lost :
    let app : App := ⟨.default, Service.create ⟨.slash, ["p"]⟩ false, none, .blank⟩
    let response (bytes : Bytes) : Response :=
      (app.respond ⟨[([[0x70]], .file bytes)]⟩ ⟨getMethod, [], collectionPath, []⟩).response
    let hidden : Bytes := [0x5B, 0x7B, 0x22, 0x5F, 0x73, 0x61, 0x22, 0x3A, 0x31, 0x7D, 0x5D]
    let surrogate : Bytes := [0x5B, 0x7B, 0x22, 0x61, 0x22, 0x3A, 0x22, 0x5C, 0x75, 0x64, 0x38,
      0x30, 0x30, 0x22, 0x7D, 0x5D]
    (∃ document, Document.ofBytes hidden = .ok document ∧
      (response hidden).body = Text.ofString "[\x7b\x7d]" ∧
      ¬ (response hidden).Carries document.toValue) ∧
    ∃ document, Document.ofBytes surrogate = .ok document ∧
      response surrogate = .ofCrash .unencodable ∧
      ¬ (response surrogate).Carries document.toValue := by
  intro app response hidden surrogate
  have empty : (response hidden).body = Text.ofString "[\x7b\x7d]" := by decide +kernel
  have crash : response surrogate = .ofCrash .unencodable := by decide +kernel
  refine ⟨⟨[⟨[("_sa", .integer 1)]⟩], rfl, empty, fun carried => ?_⟩,
    ⟨[⟨[("a", .string [⟨0xD800, by decide⟩])]⟩], rfl, crash, fun carried => ?_⟩⟩
  · have body := carried.body []
    have read : ((response hidden).toReply []).value = .ok (.array [.object []]) := by rfl
    exact absurd (Except.ok.inj (read.symm.trans body)) nofun
  · have fine := carried.crash
    rw [crash] at fine
    exact absurd fine nofun

end App

end Catalogue

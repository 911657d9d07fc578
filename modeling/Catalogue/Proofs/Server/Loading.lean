import Mathlib
import Catalogue.Proofs.Server.App
import Catalogue.Proofs.Storage.Document

/-!
Loads that fail. A load fails by the fault of the document unless the path is refused, so that no
file is looked for, or the text nests too deep to be read. What is the document's fault, a file that
cannot be read among it, is reported in one way, and all the rest is not expected by any handler.
-/

namespace Catalogue

namespace Document

variable {system : FileSystem} {path : Path}

theorem load_of_content (lookedUp : FileSystem.refusal? path = none) {bytes : Bytes}
    (content : system.content path = .ok bytes) : load system path = ofBytes bytes := by
  rw [load, lookedUp]
  dsimp only
  rw [content]

theorem load_of_obstacle (lookedUp : FileSystem.refusal? path = none) {obstacle : Obstacle}
    (content : system.content path = .error obstacle) :
    load system path = .error (.unavailable obstacle) := by
  rw [load, lookedUp]
  dsimp only
  rw [content]

end Document

namespace App

variable {app : App} {system : FileSystem} {request : Request} {query : Query}
  {failure : LoadFailure}

theorem response_of_failed (asks : request.query? = some query)
    (failed : (app.service.load system).2 = .error failure) :
    (app.respond system request).response =
      (failureResponse app.service.path.toText request (.loading failure)).1 := by
  rw [respond_of_query asks, answerQuery_eq]
  dsimp only
  rw [failed]
  rfl

/-- A document is loaded, or cannot be had or is corrupt, and every query is then answered in the
same way, if its path can be looked up and its text nests no deeper than is read everywhere. -/
theorem loads_or_reports (app : App) (system : FileSystem)
    (lookedUp : FileSystem.refusal? app.service.path = none)
    (shallow : ∀ bytes text, system.content app.service.path = .ok bytes →
      Text.ofFile? bytes = some text → text.nesting ≤ Json.safeDepth) :
    let loaded := Document.load system app.service.path
    (∀ obstacle, system.content app.service.path = .error obstacle →
      loaded = .error (.unavailable obstacle)) ∧
    (∀ bytes, system.content app.service.path = .ok bytes →
      (∃ document, loaded = .ok document) ∨
        ∃ corruption, loaded = .error (.corrupt corruption)) ∧
    ∀ failure request query, loaded = .error failure → request.query? = some query →
      app.service.kept = none →
        (app.respond system request).response = .ofText 500 .plain unreadableText := by
  intro loaded
  have obstructed (obstacle : Obstacle)
      (content : system.content app.service.path = .error obstacle) :
      loaded = .error (.unavailable obstacle) := Document.load_of_obstacle lookedUp content
  have given (bytes : Bytes) (content : system.content app.service.path = .ok bytes) :
      (∃ document, loaded = .ok document) ∨
        ∃ corruption, loaded = .error (.corrupt corruption) := by
    have read : loaded = Document.ofBytes bytes := Document.load_of_content lookedUp content
    rw [read]
    cases result : Document.ofBytes bytes with
    | ok document => exact Or.inl ⟨document, rfl⟩
    | error failure =>
        rcases Document.ofBytes_error result with ⟨corruption, rfl⟩ | ⟨text, decoded, deep⟩
        · exact Or.inr ⟨corruption, rfl⟩
        · have few := Json.lt_depthLimit (shallow bytes text content decoded)
          exact absurd (Json.depthLimit_le_nesting deep) (Nat.not_le.mpr few)
  refine ⟨obstructed, given, fun failure request query failed asks kept => ?_⟩
  have blames : failure.isDocumentFailure = true := by
    cases content : system.content app.service.path with
    | error obstacle =>
        rw [← Except.error.inj ((obstructed obstacle content).symm.trans failed)]
        rfl
    | ok bytes =>
        rcases given bytes content with ⟨document, done⟩ | ⟨corruption, corrupt⟩
        · exact absurd (done.symm.trans failed) nofun
        · rw [← Except.error.inj (corrupt.symm.trans failed)]
          rfl
  rw [response_of_failed asks ((Service.load_snd kept).trans failed)]
  exact failureResponse_of_isDocumentFailure _ request blames

/-- A file that may not be read is reported, and so is one that holds half of an array. -/
theorem loads_or_reports_half :
    let app : App := ⟨.default, Service.create ⟨.slash, ["p"]⟩ false, none, .blank⟩
    let denial : Obstacle := .other 13 "Permission denied" false (by decide)
    let denied : FileSystem := ⟨[([[0x70]], .unreadable denial)]⟩
    let half : FileSystem := ⟨[([[0x70]], .file [0x5B])]⟩
    let request : Request := ⟨getMethod, [], collectionPath, []⟩
    (Document.load denied app.service.path = .error (.unavailable denial) ∧
      (app.respond denied request).response = .ofText 500 .plain unreadableText) ∧
    (app.respond half request).response = .ofText 500 .plain unreadableText := by
  intro app denial denied half request
  constructor
  · obtain ⟨unavailable, _, answers⟩ := loads_or_reports app denied rfl
      fun bytes text content => absurd content nofun
    exact ⟨unavailable denial rfl, answers _ request .all (unavailable denial rfl) rfl rfl⟩
  · have few : (Text.ofFile? [0x5B]).all (·.nesting ≤ Json.safeDepth) = true := by decide +kernel
    obtain ⟨_, given, answers⟩ := loads_or_reports app half rfl fun bytes text content decoded => by
      obtain rfl : [0x5B] = bytes := Except.ok.inj content
      rw [decoded] at few
      exact of_decide_eq_true few
    rcases given [0x5B] rfl with ⟨document, loaded⟩ | ⟨corruption, corrupt⟩
    · exact absurd loaded nofun
    · exact answers _ request .all corrupt rfl rfl

/-- A path with a null in it is refused before any file is looked for, and a text that nests too
deep is given up. Neither is the document's fault, and no handler expects it. -/
theorem crash_of_failed_load :
    let serving (path : Path) : App := ⟨.default, Service.create path false, none, .blank⟩
    let request : Request := ⟨getMethod, [], collectionPath, []⟩
    let null : Path := ⟨.slash, [[⟨0, by decide⟩]]⟩
    let deep : FileSystem := ⟨[([[0x70]], .file (List.replicate 1000 0x5B))]⟩
    Document.load .empty null = .error (.refused .embeddedNull) ∧
      LoadFailure.isDocumentFailure (.refused .embeddedNull) = false ∧
      ((serving null).respond .empty request).response = .ofCrash (.path .embeddedNull) ∧
      ((serving ⟨.slash, ["p"]⟩).respond deep request).response = .ofCrash .tooDeep :=
  ⟨rfl, rfl, rfl, by decide +kernel⟩

end App

end Catalogue

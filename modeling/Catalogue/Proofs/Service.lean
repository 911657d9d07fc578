import Mathlib
import Catalogue.Service

/-!
What a service does with its document. A kept document is loaded without the file; without one the
file is read, and its document is kept if documents are kept. A load that fails stores nothing, and
every answer follows from what the load gives.
-/

namespace Catalogue

namespace Query

def answerOver (query : Query) (document : Document) : Except QueryFailure Selection :=
  match query.select document with
  | some selection => .ok selection
  | none => .error (.notFound query)

def answerAfter (query : Query) : Except LoadFailure Document → Except QueryFailure Selection
  | .ok document => query.answerOver document
  | .error failure => .error (.loading failure)

def entriesAfter (query : Query) (path : Text) : Except LoadFailure Document → List Log.Entry
  | .ok document => [query.entry (query.select document)]
  | .error failure => failure.entries path

variable {query : Query} {document : Document} {loaded : Except LoadFailure Document}

theorem answerOver_of_some {selection : Selection}
    (selected : query.select document = some selection) :
    query.answerOver document = .ok selection := by
  rw [answerOver, selected]

theorem answerOver_of_none (selected : query.select document = none) :
    query.answerOver document = .error (.notFound query) := by
  rw [answerOver, selected]

theorem of_answerAfter_ok {selection : Selection}
    (answered : query.answerAfter loaded = .ok selection) :
    ∃ document, loaded = .ok document ∧ query.select document = some selection := by
  cases loaded with
  | error failure => exact absurd answered nofun
  | ok document =>
      refine ⟨document, rfl, ?_⟩
      cases selected : query.select document with
      | none =>
          rw [answerAfter, answerOver_of_none selected] at answered
          exact absurd answered nofun
      | some found =>
          rw [answerAfter, answerOver_of_some selected] at answered
          rw [Except.ok.inj answered]

theorem of_answerAfter_notFound {missing : Query}
    (answered : query.answerAfter loaded = .error (.notFound missing)) :
    missing = query ∧ ∃ document, loaded = .ok document ∧ query.select document = none := by
  cases loaded with
  | error failure => exact absurd answered nofun
  | ok document =>
      cases selected : query.select document with
      | none =>
          rw [answerAfter, answerOver_of_none selected] at answered
          have same := QueryFailure.notFound.inj (Except.error.inj answered)
          exact ⟨same.symm, document, rfl, selected⟩
      | some found =>
          rw [answerAfter, answerOver_of_some selected] at answered
          exact absurd answered nofun

end Query

theorem Document.load_congr {system other : FileSystem} {path : Path}
    (same : other.content path = system.content path) :
    Document.load other path = Document.load system path := by
  rw [Document.load, Document.load, same]

theorem Document.ofBytes_of_load {system : FileSystem} {path : Path} {document : Document}
    (loaded : Document.load system path = .ok document) :
    ∃ bytes, Document.ofBytes bytes = .ok document := by
  rw [Document.load] at loaded
  split at loaded
  · exact absurd loaded nofun
  · split at loaded
    · exact absurd loaded nofun
    · exact ⟨_, loaded⟩

namespace Service

variable {service : Service} {system : FileSystem} {document : Document} {failure : LoadFailure}

theorem store_of_keeps (keeps : service.keepsDocument = true) (document : Document) :
    service.store document = ⟨service.path, true, some document⟩ :=
  if_pos keeps

theorem store_of_not_keeps (keeps : service.keepsDocument = false) (document : Document) :
    service.store document = service := by
  rw [store, keeps, if_neg Bool.false_ne_true]

@[simp] theorem store_path (service : Service) (document : Document) :
    (service.store document).path = service.path := by
  cases keeps : service.keepsDocument with
  | true => rw [store_of_keeps keeps]
  | false => rw [store_of_not_keeps keeps]

/-! Loading -/

theorem load_of_kept (kept : service.kept = some document) :
    service.load system = (service, .ok document) := by
  rw [load, kept]

theorem load_of_loaded (kept : service.kept = none)
    (loaded : Document.load system service.path = .ok document) :
    service.load system = (service.store document, .ok document) := by
  rw [load, kept]
  dsimp only
  rw [loaded]

theorem load_of_failed (kept : service.kept = none)
    (failed : Document.load system service.path = .error failure) :
    service.load system = (service, .error failure) := by
  rw [load, kept]
  dsimp only
  rw [failed]

theorem load_snd (kept : service.kept = none) :
    (service.load system).2 = Document.load system service.path := by
  cases loaded : Document.load system service.path with
  | ok document => rw [load_of_loaded kept loaded]
  | error failure => rw [load_of_failed kept loaded]

/-- What is kept after a load, if documents are kept: the document kept before, or else the one that
was read. -/
theorem load_fst_of_keeps (path : Path) (kept : Option Document) (system : FileSystem) :
    (Service.load ⟨path, true, kept⟩ system).1 =
      ⟨path, true, kept.or (Document.load system path).toOption⟩ := by
  cases kept with
  | some document => rfl
  | none =>
      cases loaded : Document.load system path with
      | ok document =>
          rw [load_of_loaded rfl loaded]
          rfl
      | error failure =>
          rw [load_of_failed rfl loaded]
          rfl

@[simp] theorem load_path (service : Service) (system : FileSystem) :
    (service.load system).1.path = service.path := by
  cases kept : service.kept with
  | some document => rw [load_of_kept kept]
  | none =>
      cases loaded : Document.load system service.path with
      | ok document => rw [load_of_loaded kept loaded, store_path]
      | error failure => rw [load_of_failed kept loaded]

theorem answer_eq (service : Service) (system : FileSystem) (query : Query) :
    service.answer system query =
      ⟨(service.load system).1, query.entriesAfter service.path.toText (service.load system).2,
        query.answerAfter (service.load system).2⟩ := by
  rw [← load_path service system, answer]
  cases service.load system with
  | mk after loaded => cases loaded <;> rfl

def KeepsRead (service : Service) : Prop :=
  ∀ document, service.kept = some document → ∃ bytes, Document.ofBytes bytes = .ok document

theorem keepsRead_create (path : Path) (keepsDocument : Bool) :
    (create path keepsDocument).KeepsRead := nofun

theorem KeepsRead.store (read : service.KeepsRead) {document : Document}
    (bytes : ∃ bytes, Document.ofBytes bytes = .ok document) :
    (service.store document).KeepsRead := by
  intro other kept
  cases keeps : service.keepsDocument with
  | true =>
      rw [store_of_keeps keeps] at kept
      rwa [← Option.some.inj kept]
  | false =>
      rw [store_of_not_keeps keeps] at kept
      exact read other kept

theorem KeepsRead.load (read : service.KeepsRead) (system : FileSystem) :
    (service.load system).1.KeepsRead ∧ ∀ document, (service.load system).2 = .ok document →
      ∃ bytes, Document.ofBytes bytes = .ok document := by
  cases kept : service.kept with
  | some held =>
      rw [load_of_kept kept]
      refine ⟨read, fun document same => ?_⟩
      obtain rfl := Except.ok.inj same
      exact read held kept
  | none =>
      cases loaded : Document.load system service.path with
      | ok found =>
          rw [load_of_loaded kept loaded]
          refine ⟨read.store (Document.ofBytes_of_load loaded), fun document same => ?_⟩
          obtain rfl := Except.ok.inj same
          exact Document.ofBytes_of_load loaded
      | error failure =>
          rw [load_of_failed kept loaded]
          exact ⟨read, nofun⟩

end Service

end Catalogue

import Catalogue.Query
import Catalogue.Storage.Document

/-!
The service that answers queries from the document at a path. It may keep the first document that
it reads; otherwise every query reads the file. Loading is made of three steps: looking for a kept
document, reading the file, and storing what was read.
-/

namespace Catalogue

structure Service where
  path : Path
  keepsDocument : Bool
  kept : Option Document

inductive QueryFailure where
  | notFound (query : Query)
  | loading (failure : LoadFailure)
  deriving DecidableEq

namespace QueryFailure

def message (path : Text) : QueryFailure → Text
  | notFound query => query.notFoundMessage
  | loading failure => failure.message path

end QueryFailure

namespace Service

def create (path : Path) (keepsDocument : Bool) : Service := ⟨path, keepsDocument, none⟩

def store (service : Service) (document : Document) : Service :=
  if service.keepsDocument then ⟨service.path, true, some document⟩ else service

def load (service : Service) (system : FileSystem) : Service × Except LoadFailure Document :=
  match service.kept with
  | some document => (service, .ok document)
  | none =>
    match Document.load system service.path with
    | .ok document => (service.store document, .ok document)
    | .error failure => (service, .error failure)

structure Outcome where
  service : Service
  entries : List Log.Entry
  answer : Except QueryFailure Selection

def answer (service : Service) (system : FileSystem) (query : Query) : Outcome :=
  match service.load system with
  | (service, .error failure) =>
    ⟨service, failure.entries service.path.toText, .error (.loading failure)⟩
  | (service, .ok document) =>
    let selected := query.select document
    ⟨service, [query.entry selected],
      match selected with
      | some selection => .ok selection
      | none => .error (.notFound query)⟩

end Service

end Catalogue

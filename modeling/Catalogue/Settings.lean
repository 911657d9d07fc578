import Catalogue.Number.Whole
import Catalogue.Storage.Path
import Catalogue.Text.LetterCase

/-!
Settings and how they are read from environment variables. Every setting has a default.
-/

namespace Catalogue

structure Settings where
  title : Text := "Gallery API"
  version : Text := "1.0.0"
  host : Text := "0.0.0.0"
  port : Int := 3000
  logLevel : Text := "INFO"
  logFile : Option Text := none
  dataFile : Text := "data/paintings-nested.json"
  keepsDocument : Bool := false
  staticDirectory : Option Text := none
  deriving DecidableEq

abbrev Environment := List (Text × Text)

namespace Environment

def get? (environment : Environment) (name : String) : Option Text :=
  (environment.find? (·.1 = Text.ofString name)).map (·.2)

/-- The environment as the system gives it back. -/
def stored (environment : Environment) : Environment :=
  environment.map fun (name, value) => (name, value.stored)

def nonEmpty? (environment : Environment) (name : String) : Option Text :=
  (environment.get? name).filter (· ≠ [])

end Environment

inductive EnvironmentFault where
  | refused (refusal : PathRefusal)
  | splitName
  | emptyName
  | port (fault : Whole.Fault)
  deriving DecidableEq

namespace EnvironmentFault

def message : EnvironmentFault → Text
  | refused refusal => refusal.message
  | splitName => "illegal environment variable name"
  | emptyName => "[Errno 22] Invalid argument"
  | port fault => fault.message

def ofBinding? (name value : Text) : Option EnvironmentFault :=
  match Text.refusal? (name ++ value) with
  | some refusal => some (refused refusal)
  | none =>
    if name.contains (CodePoint.ofChar '=') then some splitName
    else if name = [] then some emptyName
    else none

end EnvironmentFault

def Environment.fault? (environment : Environment) : Option EnvironmentFault :=
  environment.findSome? fun (name, value) => EnvironmentFault.ofBinding? name value

namespace Settings

def default : Settings := {}

def variableNames : List String :=
  ["PROJECT_NAME", "API_VERSION", "HOST", "PORT", "LOG_LEVEL", "LOG_FILE", "DATA_FILE",
    "CACHE_DOCUMENT", "STATIC_DIR"]

def affirmations : List Text := ["1", "true", "yes"]

def isAffirmative (text : Text) : Bool := affirmations.contains text.lower

def ofEnvironment (environment : Environment) : Except EnvironmentFault Settings := do
  if let some fault := environment.fault? then throw fault
  let environment := environment.stored
  let port ← match environment.get? "PORT" with
    | some text => (Whole.read text).mapError .port
    | none => .ok default.port
  .ok {
    title := (environment.get? "PROJECT_NAME").getD default.title
    version := (environment.get? "API_VERSION").getD default.version
    host := (environment.get? "HOST").getD default.host
    port
    logLevel := (environment.get? "LOG_LEVEL").getD default.logLevel
    logFile := environment.nonEmpty? "LOG_FILE"
    dataFile := (environment.get? "DATA_FILE").getD default.dataFile
    keepsDocument := ((environment.get? "CACHE_DOCUMENT").map isAffirmative).getD
      default.keepsDocument
    staticDirectory := environment.nonEmpty? "STATIC_DIR" }

def dataPath (base : List Text) (settings : Settings) : Except PathRefusal Path :=
  Path.resolve base settings.dataFile

end Settings

end Catalogue

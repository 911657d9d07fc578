import Catalogue.Client.CommandLine
import Catalogue.Client.Transport

/-!
The command line over the paintings on standard input, which a server in the same process answers
from. Settings come from the environment.
-/

namespace Catalogue

def programName : Text := "catalogue"

def baseDirectory : List Text := ["catalogue"]

def baseVariable : String := "GALLERY_API_URL"

def usage : Text :=
  "usage: catalogue [--base-url ADDRESS] (all | id ID | gallery ID | artist ID | year MIN MAX)"

def readEnvironment : List String → IO Environment
  | [] => return []
  | name :: names => do
    let others ← readEnvironment names
    match ← IO.getEnv name with
    | some value => return (Text.ofString name, Text.ofString value) :: others
    | none => return others

partial def readBytes (input : IO.FS.Stream) (read : ByteArray) : IO Bytes := do
  let more ← input.read 65536
  if more.isEmpty then return read.toList else readBytes input (read ++ more)

def printLine (text : Text) : IO Unit := do (← IO.getStderr).putStrLn text.toString

def serverOver (document : Bytes) (environment : Environment) :
    Except Text (App × FileSystem) := do
  let settings ← match Settings.ofEnvironment environment with
    | .ok settings => .ok settings
    | .error fault => .error fault.message
  let path ← (settings.dataPath baseDirectory).mapError PathRefusal.message
  let system ← (FileSystem.empty.write path (.file document)).mapError WriteFailure.message
  match App.create baseDirectory system .blank settings with
  | .ok (app, _) => .ok (app, system)
  | .error fault => .error fault.message

def report (arguments : List Text) (base : Text) (app : App) (system : FileSystem) :
    IO UInt32 := do
  match Client.run base (Client.serverExchange app system) arguments with
  | .help =>
    IO.println usage.toString
    return 0
  | .refused refusal =>
    printLine (refusal.line programName)
    return 2
  | .unusableBase =>
    printLine (programName ++ Text.ofString ": error: the base is not an address")
    return 1
  | .asked outcome =>
    match outcome.result with
    | .ok result =>
      let report := Client.Report.ofResult result
      IO.print report.output.toString
      (← IO.getStderr).putStr report.complaint.toString
      return report.exitStatus.toUInt32
    | .error _ => return 1

def program (arguments : List String) : IO UInt32 := do
  let environment ← readEnvironment (baseVariable :: Settings.variableNames)
  let document ← readBytes (← IO.getStdin) ByteArray.empty
  match serverOver document environment with
  | .error message =>
    printLine message
    return 1
  | .ok (app, system) =>
    let base := (environment.get? baseVariable).getD Client.defaultBase
    report (arguments.map Text.ofString) base app system

end Catalogue

def main (arguments : List String) : IO UInt32 := Catalogue.program arguments

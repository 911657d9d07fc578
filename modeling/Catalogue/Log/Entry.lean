import Catalogue.Text.CodePoint

/-!
Log entries. An entry is made at a level, by one part of the program, with a message.
-/

namespace Catalogue.Log

abbrev Level := Int

namespace Level

def debug : Level := 10
def info : Level := 20
def warning : Level := 30
def error : Level := 40
def critical : Level := 50

def name (level : Level) : Text :=
  match level with
  | 0 => "NOTSET"
  | 10 => "DEBUG"
  | 20 => "INFO"
  | 30 => "WARNING"
  | 40 => "ERROR"
  | 50 => "CRITICAL"
  | level => Text.ofString "Level " ++ Text.ofInt level

end Level

inductive Part where
  | document
  | query
  | application
  | client
  | launcher
  deriving DecidableEq

structure Entry where
  level : Level
  part : Part
  message : Text
  deriving DecidableEq

end Catalogue.Log

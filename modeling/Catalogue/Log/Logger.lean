import Catalogue.Log.Entry
import Catalogue.Text.LetterCase
import Catalogue.Text.Quoted

/-!
The logger that all parts of the program share. It is set up once, with a level by name and a
handler for the console and perhaps one for a file; a logger that has handlers stays as it is.
-/

namespace Catalogue.Log

inductive Meaning where
  | level (level : Level)
  | wording (text : Text)
  | styles

def meanings : List (Text × Meaning) :=
  [("CRITICAL", .level Level.critical), ("FATAL", .level Level.critical),
    ("ERROR", .level Level.error), ("WARNING", .level Level.warning),
    ("WARN", .level Level.warning), ("INFO", .level Level.info), ("DEBUG", .level Level.debug),
    ("NOTSET", .level 0),
    ("BASIC_FORMAT", .wording "%(levelname)s:%(name)s:%(message)s"), ("_STYLES", .styles)]

def meaning? (name : Text) : Option Meaning :=
  (meanings.find? (·.1 = name.upperAscii)).map (·.2)

/-- Why a name gives no level: it stands for something else. -/
inductive LevelFault where
  | wording (text : Text)
  | styles
  deriving DecidableEq

def LevelFault.message : LevelFault → Text
  | wording text => Text.ofString "Unknown level: " ++ text.quoted
  | styles => "Not a level"

/-- The level that a name gives. A name without a meaning gives the level of information. -/
def Level.ofName (name : Text) : Except LevelFault Level :=
  match meaning? name with
  | some (.level level) => .ok level
  | some (.wording text) => .error (.wording text)
  | some .styles => .error .styles
  | none => .ok Level.info

structure Record where
  source : Text
  level : Level
  message : Text
  deriving DecidableEq

inductive Piece where
  | time
  | level
  | source
  | message
  | literal (text : Text)
  deriving DecidableEq

namespace Piece

def pattern : Piece → Text
  | time => "%(asctime)s"
  | level => "%(levelname)s"
  | source => "%(name)s"
  | message => "%(message)s"
  | literal text => text

def write (moment : Text) (record : Record) : Piece → Text
  | time => moment
  | level => record.level.name
  | source => if record.source = [] then Text.ofString "root" else record.source
  | message => record.message
  | literal text => text

end Piece

structure Layout where
  pieces : List Piece
  timePattern : Text
  deriving DecidableEq

namespace Layout

def default : Layout :=
  ⟨[.time, .literal " [", .level, .literal "] ", .source, .literal ": ", .message],
    "%Y-%m-%d %H:%M:%S"⟩

def pattern (layout : Layout) : Text := layout.pieces.flatMap Piece.pattern

def line (layout : Layout) (moment : Text) (record : Record) : Text :=
  layout.pieces.flatMap (Piece.write moment record) ++ [CodePoint.lineFeed]

end Layout

inductive Handler where
  | console (layout : Layout)
  | file (layout : Layout)
  | discarding
  deriving DecidableEq

def Handler.layout? : Handler → Option Layout
  | console layout => some layout
  | file layout => some layout
  | discarding => none

structure Logger where
  level : Level
  handlers : List Handler
  deriving DecidableEq

namespace Logger

def bare : Logger := ⟨Level.warning, []⟩

def initialHandlers (hasFile : Bool) : List Handler :=
  .console .default :: if hasFile then [.file .default] else []

/-- Sets a logger up, unless it has handlers. A name that gives no level changes nothing. -/
def setUp (level : Text) (hasFile : Bool) (logger : Logger) : Except LevelFault Logger :=
  if logger.handlers = [] then
    match Level.ofName level with
    | .ok level => .ok ⟨level, initialHandlers hasFile⟩
    | .error fault => .error fault
  else .ok logger

def admits (logger : Logger) (record : Record) : Bool :=
  0 < record.level && logger.level ≤ record.level

/-- What the console shows of a record. Without handlers it shows the message of a warning. -/
def consoleText (logger : Logger) (moment : Text) (record : Record) : Text :=
  if !logger.admits record then []
  else if logger.handlers = [] then
    if Level.warning ≤ record.level then record.message ++ [CodePoint.lineFeed] else []
  else logger.handlers.flatMap fun handler =>
    match handler with
    | .console layout => layout.line moment record
    | _ => []

def fileText (logger : Logger) (moment : Text) (record : Record) : Text :=
  if !logger.admits record then []
  else logger.handlers.flatMap fun handler =>
    match handler with
    | .file layout => layout.line moment record
    | _ => []

def hasFile (logger : Logger) : Bool :=
  logger.handlers.any fun handler =>
    match handler with
    | .file _ => true
    | _ => false

end Logger

end Catalogue.Log

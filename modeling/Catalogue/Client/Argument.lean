import Catalogue.Client.Command
import Catalogue.Text.DecimalDigit
import Catalogue.Text.Quoted

/-!
The arguments of the command line. Every argument is given a role by its spelling alone, whatever
stands before it; a double dash makes operands of all that follow it.
-/

namespace Catalogue.Client

inductive Switch where
  | help
  | base
  deriving DecidableEq

def Switch.title : Switch → Text
  | help => "-h/--help"
  | base => "--base-url"

/-- What is written to an option in the same argument: to a name, or to the letter of a short
option. -/
inductive Attachment where
  | value (text : Text)
  | letters (text : Text)
  deriving DecidableEq

def Attachment.ofSpelling (spelling text : Text) : Attachment :=
  if spelling.startsWith "--" then value text else letters text

inductive Role where
  | operand
  | option (switch : Switch) (attachment : Option Attachment)
  | unknown
  | divider
  deriving DecidableEq

structure Argument where
  text : Text
  role : Role
  deriving DecidableEq

inductive UsageFault where
  | ambiguous (argument : Text) (spellings : List Text)
  | missing (names : List Text)
  | unrecognized (arguments : List Text)
  | unknownCommand (word : Text)
  | valueMissing (switch : Switch)
  | valueUnwanted (switch : Switch) (value : Text)
  deriving DecidableEq

def joinedBy (separator : String) (texts : List Text) : Text :=
  List.intercalate (Text.ofString separator) texts

def UsageFault.message : UsageFault → Text
  | ambiguous argument spellings =>
    Text.ofString "ambiguous option: " ++ argument ++ Text.ofString " could match " ++
      joinedBy ", " spellings
  | missing names =>
    Text.ofString "the following arguments are required: " ++ joinedBy ", " names
  | unrecognized arguments =>
    Text.ofString "unrecognized arguments: " ++ joinedBy " " arguments
  | unknownCommand word =>
    Text.ofString "argument command: invalid choice: " ++ word.quoted ++
      Text.ofString " (choose from " ++ joinedBy ", " (Command.commands.map (·.name.quoted)) ++
      Text.ofString ")"
  | valueMissing switch =>
    Text.ofString "argument " ++ switch.title ++ Text.ofString ": expected one argument"
  | valueUnwanted switch value =>
    Text.ofString "argument " ++ switch.title ++ Text.ofString ": ignored explicit argument " ++
      value.quoted

abbrev Spellings := List (Text × Switch)

def commandSpellings : Spellings := [("-h", .help), ("--help", .help)]

def spellings : Spellings := [("-h", .help), ("--help", .help), ("--base-url", .base)]

def dash : Text := "-"
def doubleDash : Text := "--"

def cutAtEquals (text : Text) : Text × Option Text :=
  match text.dropWhile (· ≠ CodePoint.ofChar '=') with
  | [] => (text, none)
  | _ :: value => (text.takeWhile (· ≠ CodePoint.ofChar '='), some value)

def isPlainNumber (text : Text) : Bool :=
  let isDigit := fun (code : CodePoint) => code.decimalDigit?.isSome
  let (whole, rest) := text.span isDigit
  match rest with
  | [] => whole ≠ []
  | point :: places => point = '.' && places ≠ [] && places.all isDigit

/-- Whether an argument is a number below zero, to which a line feed may be added. -/
def isNegativeNumber (argument : Text) : Bool :=
  match argument.after? dash with
  | none => false
  | some text =>
    isPlainNumber text ||
      (text.getLast? = some CodePoint.lineFeed && isPlainNumber text.dropLast)

def candidates (spellings : Spellings) (argument : Text) : List (Text × Role) :=
  if argument.startsWith doubleDash then
    let (name, value) := cutAtEquals argument
    (spellings.filter (·.1.startsWith name)).map fun (spelling, switch) =>
      (spelling, .option switch (value.map .value))
  else
    (spellings.filter (·.1 = argument.take 2)).map fun (spelling, switch) =>
      (spelling, .option switch (some (.letters (argument.drop 2))))

/-- The role of an argument that begins with a dash and is neither an option as it stands nor one
with a value. -/
def looseRole (spellings : Spellings) (argument : Text) : Except UsageFault Role :=
  match candidates spellings argument with
  | [(_, role)] => .ok role
  | [] =>
    .ok (if isNegativeNumber argument ∨ argument.contains CodePoint.space then .operand
      else .unknown)
  | several => .error (.ambiguous argument (several.map (·.1)))

def switchOf? (spellings : Spellings) (spelling : Text) : Option Switch :=
  (spellings.find? (·.1 = spelling)).map (·.2)

def roleOf (spellings : Spellings) (argument : Text) : Except UsageFault Role :=
  if !argument.startsWith dash then .ok .operand
  else match switchOf? spellings argument with
    | some switch => .ok (.option switch none)
    | none =>
      if argument = dash then .ok .operand
      else
        let (name, value) := cutAtEquals argument
        match switchOf? spellings name, value with
        | some switch, some value => .ok (.option switch (some (.ofSpelling name value)))
        | _, _ => looseRole spellings argument

def Argument.ofTexts (spellings : Spellings) : List Text → Except UsageFault (List Argument)
  | [] => .ok []
  | text :: texts =>
    if text = doubleDash then .ok (⟨text, .divider⟩ :: texts.map fun text => ⟨text, .operand⟩)
    else do
      let role ← roleOf spellings text
      let arguments ← ofTexts spellings texts
      .ok (⟨text, role⟩ :: arguments)

end Catalogue.Client

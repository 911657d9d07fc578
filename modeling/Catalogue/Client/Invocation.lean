import Catalogue.Client.Argument

/-!
What the arguments of the command line ask for. Options stand before a command, and the operands
of the command after it. Missing operands are reported before superfluous ones.
-/

namespace Catalogue.Client

/-- What was given for an operand or to an option. A double dash on its own is taken away, which
leaves an empty list. -/
inductive Given where
  | word (text : Text)
  | emptyList
  deriving DecidableEq

namespace Given

def ofArgument (argument : Text) : Given :=
  if argument = doubleDash then emptyList else word argument

def display : Given → Text
  | word text => text
  | emptyList => "[]"

end Given

inductive Invocation where
  | help
  | query (base : Option Given) (query : Query)
  deriving DecidableEq

structure Refusal where
  command : Option Command
  fault : UsageFault
  deriving DecidableEq

def checkLetters (letters : Text) : Except UsageFault Unit :=
  let others := letters.dropWhile (· = CodePoint.ofChar 'h')
  if letters = [] ∨ others ≠ [] then .error (.valueUnwanted .help others) else .ok ()

def checkHelp : Option Attachment → Except UsageFault Unit
  | none => .ok ()
  | some (.value value) => .error (.valueUnwanted .help value)
  | some (.letters letters) => checkLetters letters

def Attachment.text : Attachment → Text
  | value text => text
  | letters text => text

structure Operands where
  values : List Given
  unrecognized : List Text
  deriving DecidableEq

namespace Operands

def none : Operands := ⟨[], []⟩

def take (operands : Operands) (value : Given) : Operands :=
  { operands with values := operands.values ++ [value] }

def leave (operands : Operands) (argument : Text) : Operands :=
  { operands with unrecognized := operands.unrecognized ++ [argument] }

end Operands

/-- Follows the arguments of a command that still wants some operands. A divider belongs to the
operand that was just taken, or else to the next one; if neither is there it is not recognized. -/
def followOperands (wanted : Nat) (justTaken : Bool) (operands : Operands) :
    List Argument → Except UsageFault (Option Operands)
  | [] => .ok (some operands)
  | ⟨text, .unknown⟩ :: arguments =>
    followOperands wanted false (operands.leave text) arguments
  | ⟨_, .option .help attachment⟩ :: _ => do
    checkHelp attachment
    .ok .none
  | ⟨text, .option .base _⟩ :: arguments =>
    followOperands wanted false (operands.leave text) arguments
  | ⟨text, .operand⟩ :: arguments =>
    match wanted with
    | 0 => followOperands 0 false (operands.leave text) arguments
    | wanted + 1 => followOperands wanted true (operands.take (.ofArgument text)) arguments
  | ⟨text, .divider⟩ :: arguments =>
    if justTaken then followOperands wanted false operands arguments
    else match wanted, arguments with
      | wanted + 1, ⟨next, _⟩ :: arguments =>
        followOperands wanted true (operands.take (.word next)) arguments
      | _, arguments => followOperands wanted false (operands.leave text) arguments

def followCommand (command : Command) (texts : List Text) :
    Except UsageFault (Option Operands) := do
  let arguments ← Argument.ofTexts commandSpellings texts
  let names := command.operands
  match ← followOperands names.length false .none arguments with
  | .none => .ok .none
  | some operands =>
    match names.drop operands.values.length with
    | [] => .ok (some operands)
    | missing => .error (.missing missing)

def invocationOf (base : Option Given) (unrecognized : List Text) (command : Command)
    (texts : List Text) : Except Refusal Invocation :=
  match followCommand command texts with
  | .error fault => .error ⟨some command, fault⟩
  | .ok .none => .ok .help
  | .ok (some operands) =>
    let values := operands.values.map Given.display
    match unrecognized ++ operands.unrecognized, command.query? values with
    | [], some query => .ok (.query base query)
    | unrecognized, _ => .error ⟨.none, .unrecognized unrecognized⟩

def follow (base : Option Given) (unrecognized : List Text) :
    List Argument → Except Refusal Invocation
  | [] => .error ⟨.none, .missing ["command"]⟩
  | ⟨text, .unknown⟩ :: arguments => follow base (unrecognized ++ [text]) arguments
  | ⟨_, .option .help attachment⟩ :: _ =>
    match checkHelp attachment with
    | .ok () => .ok .help
    | .error fault => .error ⟨.none, fault⟩
  | ⟨_, .option .base (some attachment)⟩ :: arguments =>
    follow (some (.ofArgument attachment.text)) unrecognized arguments
  | ⟨_, .option .base .none⟩ :: ⟨value, .operand⟩ :: arguments =>
    follow (some (.word value)) unrecognized arguments
  | ⟨_, .option .base .none⟩ :: _ => .error ⟨.none, .valueMissing .base⟩
  | [⟨_, .divider⟩] => .error ⟨.none, .missing ["command"]⟩
  | ⟨word, _⟩ :: arguments =>
    match Command.ofName? word with
    | some command => invocationOf base unrecognized command (arguments.map (·.text))
    | .none => .error ⟨.none, .unknownCommand word⟩

def Invocation.ofTexts (texts : List Text) : Except Refusal Invocation :=
  match Argument.ofTexts spellings texts with
  | .ok arguments => follow .none [] arguments
  | .error fault => .error ⟨.none, fault⟩

def Refusal.line (program : Text) (refusal : Refusal) : Text :=
  let place := match refusal.command with
    | .none => program
    | some command => program ++ Text.ofString " " ++ command.name
  place ++ Text.ofString ": error: " ++ refusal.fault.message

end Catalogue.Client

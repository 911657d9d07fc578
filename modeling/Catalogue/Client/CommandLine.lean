import Catalogue.Client.Ask
import Catalogue.Client.Invocation
import Catalogue.Json.Printer

/-!
The command line of the client. A value is printed with indents, an error as one line for people.
-/

namespace Catalogue.Client

structure Report where
  exitStatus : Nat
  output : Text
  complaint : Text
  deriving DecidableEq

namespace Report

def ofValue (value : Json.Value) : Report :=
  ⟨0, value.write Json.Style.indented ++ [CodePoint.lineFeed], []⟩

def ofError (error : Error) : Report :=
  ⟨1, [], Text.ofString "Error (" ++ statusText error.status ++
    Text.ofString "): " ++ error.message.display ++ [CodePoint.lineFeed]⟩

def ofResult : Except Error Json.Value → Report
  | .ok value => ofValue value
  | .error error => ofError error

end Report

inductive Run where
  | help
  | refused (refusal : Refusal)
  | unusableBase
  | asked (outcome : Outcome)

def run (defaultBase : Text) (exchange : Text → Text → Exchange) (arguments : List Text) : Run :=
  match Invocation.ofTexts arguments with
  | .error refusal => .refused refusal
  | .ok .help => .help
  | .ok (.query base query) =>
    match base.getD (.word defaultBase) with
    | .word base => .asked (ask base (exchange base) query)
    | .emptyList => .unusableBase

end Catalogue.Client

import Catalogue.Client.Reply
import Catalogue.Json.Display
import Catalogue.Log.Entry
import Catalogue.Server.Route

/-!
The client. It asks for the path of a query at a base address and turns every reply into a value
or an error with a message. Of a reply with an error status the message is found in the JSON of
the body, else in its text, else in the status itself.
-/

namespace Catalogue.Client

def defaultBase : Text := "http://localhost:3000"

def defaultTimeout : Nat := 15

/-- The address of a query: slashes at the end of the base are left out. -/
def address (base : Text) (query : Query) : Text := base.dropTrailing '/' ++ query.toPath

structure Error where
  status : Option Int
  message : Json.Value

def Error.toValue (error : Error) : Json.Value :=
  .object [(Text.ofString "status_code", (error.status.map Json.Value.integer).getD .null),
    (Text.ofString "message", error.message)]

inductive Escape where
  | tooDeep
  | system (message : Text)
  | unexpected (message : Text)
  deriving DecidableEq

abbrev Result := Except Escape (Except Error Json.Value)

structure Outcome where
  address : Text
  entries : List Log.Entry
  result : Result

def orElse (first second : Json.Value) : Json.Value := if first.isGiven then first else second

def messageIn : Json.Value → Json.Value
  | .object members =>
    orElse (Json.Value.get members "message")
      (orElse (Json.Value.get members "detail") (.string (Json.Value.object members).inspect))
  | value => .string value.display

def errorMessage (reply : Reply) (complaint : Text) : Except Escape Json.Value :=
  let otherwise : Json.Value := .string complaint
  match reply.value with
  | .ok value => .ok (orElse (messageIn value) otherwise)
  | .error (.refusal .tooDeep) => .error .tooDeep
  | .error _ => .ok (orElse (.string reply.text) otherwise)

def statusText (status : Option Int) : Text :=
  match status with
  | some status => Text.ofInt status
  | none => "None"

def complain (message : Text) : Log.Entry := ⟨Log.Level.error, .client, message⟩

def failed (status : Option Int) (message : Json.Value) : List Log.Entry × Result :=
  ([complain (Text.ofString "API request failed (" ++ statusText status ++
      Text.ofString "): " ++ message.display)],
    .ok (.error ⟨status, message⟩))

def broken (message : Text) : List Log.Entry × Result :=
  ([complain (Text.ofString "API request failed: " ++ message)],
    .ok (.error ⟨none, .string message⟩))

def unusable (address message : Text) : List Log.Entry × Result :=
  ([complain (Text.ofString "API returned invalid JSON from " ++ address ++
      Text.ofString ": " ++ message)],
    .ok (.error ⟨none, .string (Text.ofString "Invalid JSON response: " ++ message)⟩))

/-- What a reply means. A fault in the JSON of a reply without an error status counts as one of
the exchange, and a number with too many digits as an unusable value. -/
def interpretReply (address : Text) (reply : Reply) : List Log.Entry × Result :=
  match reply.complaint? with
  | some complaint =>
    match errorMessage reply complaint with
    | .ok message => failed (some reply.status) message
    | .error escape => ([], .error escape)
  | none =>
    match reply.value with
    | .ok value => ([], .ok (.ok value))
    | .error (.refusal .tooDeep) => ([], .error .tooDeep)
    | .error (.refusal refusal) => unusable address refusal.message
    | .error failure => broken failure.message

def interpret (address : Text) : Exchange → List Log.Entry × Result
  | .reply reply => interpretReply address reply
  | .fault .transport message => broken message
  | .fault .status message => failed none (.string message)
  | .fault .value message => unusable address message
  | .fault .system message => ([], .error (.system message))
  | .fault .unexpected message => ([], .error (.unexpected message))

def ask (base : Text) (exchange : Text → Exchange) (query : Query) : Outcome :=
  let address := address base query
  let sending : Log.Entry :=
    ⟨Log.Level.debug, .client, Text.ofString "Sending GET request to " ++ address⟩
  let (entries, result) := interpret address (exchange address)
  ⟨address, sending :: entries, result⟩

end Catalogue.Client

import Catalogue.Json.Reader
import Catalogue.Text.Utf8

/-!
What a client gets back from a request: a reply with a status and texts, or a failure of the
exchange itself. How the bytes of a body become text, and where a reply comes from once hints to
other addresses have been followed, is for the transport to say.
-/

namespace Catalogue

structure Reply where
  status : Int
  reason : Option Text
  address : Text
  /-- The body as it is read as JSON. -/
  source : Text
  /-- The body as it is shown. -/
  text : Text

inductive ExchangeFault where
  | transport
  /-- The transport reports an error status without the reply it came with. -/
  | status
  | value
  | system
  | unexpected
  deriving DecidableEq

inductive Exchange where
  | reply (reply : Reply)
  | fault (kind : ExchangeFault) (message : Text)

namespace Reply

/-- A reply whose body is text in one encoding, which is damaged at most in places. -/
def ofUtf8 (status : Int) (reason : Option Text) (address : Text) (body : Bytes) : Reply :=
  let text := Text.ofUtf8Replacing body
  ⟨status, reason, address, text, text⟩

def value (reply : Reply) : Except Json.Failure Json.Value :=
  Json.readUnmarked .lenient reply.source

def complaint? (reply : Reply) : Option Text :=
  let reason := reply.reason.getD "None"
  let side : Option Text :=
    if 400 ≤ reply.status ∧ reply.status < 500 then some (Text.ofString " Client Error: ")
    else if 500 ≤ reply.status ∧ reply.status < 600 then some (Text.ofString " Server Error: ")
    else none
  side.map fun side =>
    Text.ofInt reply.status ++ side ++ reason ++ Text.ofString " for url: " ++ reply.address

end Reply

end Catalogue

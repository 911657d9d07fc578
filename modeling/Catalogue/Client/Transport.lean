import Catalogue.Client.Ask
import Catalogue.Server.App

/-!
An exchange with a server in the same process. The path reaches the server as the client wrote it,
and the status and the bytes of the response come back unchanged, from the address that was asked.
-/

namespace Catalogue

def Response.toReply (response : Response) (address : Text) : Reply :=
  .ofUtf8 response.status none address response.body.utf8

namespace Client

def requestFor (base address : Text) : Request :=
  let origin := base.dropTrailing '/'
  ⟨getMethod, origin, (address.after? origin).getD address, []⟩

def serverExchange (app : App) (system : FileSystem) (base address : Text) : Exchange :=
  .reply ((app.respond system (requestFor base address)).response.toReply address)

end Client

end Catalogue

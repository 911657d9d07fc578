import Catalogue.Server.App

/-!
Launching the server: where it listens, and how it logs.
-/

namespace Catalogue

structure Launch where
  app : App
  host : Text
  port : Int
  reloads : Bool
  logLevel : Text

namespace Launch

def ofSettings (app : App) (settings : Settings) : Launch :=
  ⟨app, settings.host, settings.port, false, settings.logLevel.lower⟩

def entry (launch : Launch) : Log.Entry :=
  ⟨Log.Level.info, .launcher, Text.ofString "Server running on port " ++ Text.ofInt launch.port⟩

end Launch

end Catalogue

import Catalogue.Server.Response
import Catalogue.Server.Route
import Catalogue.Server.StaticFiles

/-!
The pages about the server that stand beside its routes: a description for programs, and pages for
people that show it. What is written on them is made elsewhere, and given here.
-/

namespace Catalogue

inductive Page where
  | description
  | explorer
  | authorization
  | reference
  deriving DecidableEq

namespace Page

def all : List Page := [description, explorer, authorization, reference]

def path : Page → Text
  | description => "/openapi.json"
  | explorer => "/docs"
  | authorization => "/docs/oauth2-redirect"
  | reference => "/redoc"

def mediaType : Page → MediaType
  | description => .json
  | _ => .html

def isAt (path : Text) (page : Page) : Bool := (path.after? page.path).any isPathEnd

def ofPath? (path : Text) : Option Page := all.find? (isAt path)

def takesMethod (method : Text) : Bool := method = getMethod || method = headMethod

end Page

structure Documentation where
  text : Page → Text
  /-- The order in which the two methods are named where another one is refused. -/
  namesHeadFirst : Bool

namespace Documentation

def blank : Documentation := ⟨fun _ => [], false⟩

def allowed (documentation : Documentation) : Text :=
  if documentation.namesHeadFirst then "HEAD, GET" else "GET, HEAD"

def respond (documentation : Documentation) (page : Page) : Response :=
  let text := documentation.text page
  if text.any CodePoint.isSurrogate then .ofCrash .unencodable
  else .ofText 200 page.mediaType text

end Documentation

end Catalogue

import Catalogue.Server.Route

/-!
The description of the routes that the server publishes: the template of each path, its
parameters, the statuses of its responses and a few sentences.
-/

namespace Catalogue

inductive Tag where
  | paintings
  | health
  deriving DecidableEq

def Tag.name : Tag → String
  | paintings => "paintings"
  | health => "health"

structure Operation where
  /-- The pieces of the path; a parameter stands for any piece. -/
  pieces : List String
  parameters : List String
  tag : Tag
  statuses : List Nat
  description : String

namespace Operation

def template (operation : Operation) : Text :=
  operation.pieces.flatMap fun piece =>
    if operation.parameters.contains piece then
      Text.ofString "/\x7b" ++ Text.ofString piece ++ Text.ofString "\x7d"
    else Text.ofString "/" ++ Text.ofString piece

def all : List Operation :=
  [⟨["api", "paintings"], [], .paintings, [200, 500],
      "Return every painting in document order.\n\nAn empty document yields an empty list, not a 404."⟩,
    ⟨["api", "paintings", "artist", "artist_id"], ["artist_id"], .paintings, [200, 404, 422, 500],
      "Return the paintings by an artist."⟩,
    ⟨["api", "paintings", "gallery", "gallery_id"], ["gallery_id"], .paintings,
      [200, 404, 422, 500], "Return the paintings held by a gallery."⟩,
    ⟨["api", "paintings", "year", "min_year", "max_year"], ["min_year", "max_year"], .paintings,
      [200, 404, 422, 500],
      "Return paintings made between ``min_year`` and ``max_year`` inclusive."⟩,
    ⟨["api", "paintings", "painting_id"], ["painting_id"], .paintings, [200, 404, 422, 500],
      "Retrieve a single painting by its ID.\n\nIf the document holds duplicate ids the first one wins."⟩,
    ⟨["health"], [], .health, [200], ""⟩]

end Operation

end Catalogue

import Catalogue.Query

/-!
The commands of the command line. Each asks for one kind of query and needs the operands that the
query has parameters.
-/

namespace Catalogue.Client

inductive Command where
  | all
  | painting
  | gallery
  | artist
  | years
  deriving DecidableEq

namespace Command

def commands : List Command := [all, painting, gallery, artist, years]

def name : Command → Text
  | all => "all"
  | painting => "id"
  | gallery => "gallery"
  | artist => "artist"
  | years => "year"

def ofName? (word : Text) : Option Command := commands.find? (·.name = word)

def operands : Command → List Text
  | all => []
  | years => ["min_year", "max_year"]
  | _ => ["value"]

def query? : Command → List Text → Option Query
  | all, [] => some .all
  | painting, [identifier] => some (.painting identifier)
  | gallery, [identifier] => some (.gallery identifier)
  | artist, [identifier] => some (.artist identifier)
  | years, [least, greatest] => some (.years least greatest)
  | _, _ => none

end Command

end Catalogue.Client

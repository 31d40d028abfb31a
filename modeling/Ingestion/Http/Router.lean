import Ingestion.Http.Form
import Ingestion.Http.Target
import Ingestion.Uuid

/-!
# Routes

What the paths of requests stand for. A path is split at slashes before its pieces are decoded, so
that an encoded slash does not split.
-/

namespace Ingestion.Http

/-- What a path stands for. Pieces in the place of a name are not yet decoded. -/
inductive Route where
  | health
  | blueprints
  | schedule
  | blueprint (id : List Char)
  | trigger (id : List Char)
  | projectBlueprint (name : List Char)
deriving DecidableEq, Repr

/-- The route of a path. The last piece may not be empty. -/
def Route.ofPath? (path : List (List Char)) : Option Route :=
  match path.map String.ofList, path with
  | ["health"], _ => some .health
  | ["blueprints"], _ => some .blueprints
  | ["blueprints", "schedule"], _ => some .schedule
  | ["blueprints", _], [_, id] => if id.isEmpty then none else some (.blueprint id)
  | ["blueprints", _, "trigger"], [_, id, _] => some (.trigger id)
  | ["projects", _, "blueprint"], [_, name, _] => some (.projectBlueprint name)
  | _, _ => none

/-- The text that a piece of a path stands for. -/
def pathText? (cs : List Char) : Option String :=
  Utf8.decode? (Percent.decode cs)

/-- The identifier that a piece of a path stands for. -/
def pathId? (cs : List Char) : Option Uuid :=
  (pathText? cs).bind Uuid.ofText?

end Ingestion.Http

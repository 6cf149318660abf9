/-! # Paths

* `Path.steps`: the parts of a path between its slashes.
* `Path.start`: the names that lead to where a path starts.
* `Path.parent?`: the path of what contains the file that a path names.
* `Path.unslashed`: a path without the slashes at its end.
-/

namespace ModelScribe.Path

/-- The parts of a path between its slashes; two slashes have the empty part between them. -/
def steps (path : String) : List String :=
  (path.toList.splitOn '/').map String.ofList

/-- A path that starts with a slash starts at the root, any other at a base. -/
def start (base : List String) (path : String) : List String :=
  if path.startsWith "/" then [] else base

/-- Parts of a path that count: empty ones do not, and a single dot counts only at the start. -/
def isName (index : Nat) (step : String) : Bool :=
  !step.isEmpty && (step != "." || index == 0)

/-- The numbers of parts up to and with each part that counts. -/
def ends (steps : List String) : List Nat :=
  (steps.zipIdx.filter fun step => isName step.2 step.1).map (·.2 + 1)

/-- The path without its last part that counts; a path without such a part has none. -/
def parent? (path : String) : Option String :=
  let steps := steps path
  match (ends steps).reverse with
  | [] => none
  | [_] => if path.startsWith "/" then some "/" else some ""
  | _ :: before :: _ => some (String.intercalate "/" (steps.take before))

/-- The path without the slashes at its end; a path of slashes alone keeps one. -/
def unslashed (path : String) : String :=
  match path.toList.reverse.dropWhile (· == '/') with
  | [] => if path.isEmpty then "" else "/"
  | kept => String.ofList kept.reverse

end ModelScribe.Path

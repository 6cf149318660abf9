import ModelScribe.Filter.Flow
import ModelScribe.Json.Reader
import ModelScribe.Text.Blank

/-! # Filters and the library that runs them

A filter makes any number of outputs of a document. What it makes is up to a library, which loads
the filter, compiles it and runs it, and which has its own words for what goes wrong. All outputs
are worked out before the first is taken, so a fault behind the first output counts as well.

* `FilterLibrary`: what is asked of a library.
* `Filter.outputs`: all outputs of a filter.
* `Filter.firstOf`: the first one.
* `FilterProblem`: why there is none.
-/

namespace ModelScribe

/-- What a library says about code that it cannot read. -/
structure Misreading where
  code : String
  words : String
  deriving DecidableEq

/-- What a library says about the undefined names of some code, each with its words. -/
structure UndefinedNames where
  code : String
  names : List (String × String)
  deriving DecidableEq

/-- A library that runs filters. -/
class FilterLibrary where
  /-- Filters that have been loaded. -/
  Source : Type
  /-- Filters that can be run. -/
  Program : Type
  load : (filter : String) → Except (List Misreading) Source
  compile : Source → Except (List UndefinedNames) Program
  /-- The outputs of a filter for a document, each as JSON text, up to the first error. -/
  run : Program → (document : Json) → Flow (Except String String)

/-- Why a filter has no output. -/
inductive FilterProblem
  /-- The text is no filter. -/
  | malformed {misreadings : List Misreading}
  /-- A name in the filter is not defined. -/
  | undefined {missing : List UndefinedNames}
  /-- The filter raises an error. -/
  | raised {words : String}
  /-- An output cannot be read as JSON. -/
  | unreadable (error : JsonError)
  | noOutput (filter : String)
  deriving DecidableEq

/-- The line about a misreading. -/
def Misreading.line (misreading : Misreading) : String :=
  "parse error: " ++ misreading.words ++ " in `" ++ misreading.code ++ "`\n"

/-- The lines about undefined names. -/
def UndefinedNames.lines (missing : UndefinedNames) : List String :=
  missing.names.map fun (name, words) =>
    "undefined `" ++ name ++ "`: " ++ words ++ " in `" ++ missing.code ++ "`\n"

namespace FilterProblem

/-- Lines one after another, without the blanks behind the last. -/
def joined (lines : List String) : String :=
  String.ofList (Text.trimEnd (String.join lines).toList)

/-- The words for a problem. -/
def message : FilterProblem → String
  | @malformed misreadings => joined (misreadings.map Misreading.line)
  | @undefined missing => joined (missing.flatMap UndefinedNames.lines)
  | @raised words => words
  | unreadable error => error.message
  | noOutput filter => "`" ++ filter ++ "` produced no output"

end FilterProblem

namespace Filter

variable [library : FilterLibrary]

/-- The outputs of a run as documents, up to the first that is none. -/
def documents : (reversed : List Json) → Flow (Except String String) →
    Except FilterProblem (List Json)
  | reversed, .done => .ok reversed.reverse
  | _, .item (.error words) _ => .error (@FilterProblem.raised words)
  | reversed, .item (.ok text) rest => do
      documents ((← (Json.parse text).mapError .unreadable) :: reversed) (rest ())

/-- All outputs of a filter. -/
def outputs (filter : String) (document : Json) : Except FilterProblem (List Json) := do
  let source ← (library.load filter).mapError @FilterProblem.malformed
  let program ← (library.compile source).mapError @FilterProblem.undefined
  documents [] (library.run program document)

/-- The first output of a filter. -/
def firstOf (filter : String) (document : Json) : Except FilterProblem Json := do
  match ← outputs filter document with
  | [] => throw (.noOutput filter)
  | first :: _ => return first

end Filter

end ModelScribe

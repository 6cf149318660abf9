import ModelScribe.Filter.Library
import ModelScribe.Filter.Prelude

/-! # The filter language

The library that runs filters where no other is given (`ModelScribe.Filter.ownLibrary`): it reads
them, looks for names that are not defined, and evaluates them.
-/

namespace ModelScribe.Filter

/-- How deeply filters may call one another. -/
def greatestDepth : Nat := 100000

/-- A filter that has been read, with its text. -/
structure Loaded where
  code : String
  filter : Expr

/-- Reads a filter. -/
def load (code : String) : Except (List Misreading) Loaded :=
  match Expr.read code with
  | none => .error [{ code, words := "no filter" }]
  | some filter => .ok { code, filter }

/-- A filter whose names are all defined. -/
def compile (loaded : Loaded) : Except (List UndefinedNames) Expr :=
  match loaded.filter.undefinedNames prelude.scope with
  | [] => .ok loaded.filter
  | names => .error [{ code := loaded.code, names }]

/-- An output as JSON text, or the words for a fault. -/
def outputText (output : Outcome Located) : Except String String :=
  (output.map fun located => located.value.text).mapError Fault.words

/-- The library that evaluates filters by their meaning. -/
instance ownLibrary : FilterLibrary where
  Source := Loaded
  Program := Expr
  load := load
  compile := compile
  run filter document :=
    (run greatestDepth ⟨prelude, 0⟩ filter (.made (.ofJson document))).map outputText

end ModelScribe.Filter

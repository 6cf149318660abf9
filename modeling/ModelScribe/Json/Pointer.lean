import ModelScribe.Json.Basic

/-! # JSON pointers

A pointer names a value inside a value: nothing for the value itself, otherwise a slash before each
step. A step is a key with `~` written `~0` and `/` written `~1`, or the decimal index of an item.

* `JsonPointer.steps?`: the steps of a pointer.
* `Json.follow?`: the value that steps lead to.
* `Json.pointed?`: the value that a pointer names.
-/

namespace ModelScribe

namespace JsonPointer

/-- A step as it is written. -/
def escape : List Char → List Char
  | [] => []
  | '~' :: rest => '~' :: '0' :: escape rest
  | '/' :: rest => '~' :: '1' :: escape rest
  | character :: rest => character :: escape rest

/-- Reads `~1` as a slash. -/
def unescapeSlashes : List Char → List Char
  | [] => []
  | '~' :: '1' :: rest => '/' :: unescapeSlashes rest
  | character :: rest => character :: unescapeSlashes rest

/-- Reads `~0` as a tilde. -/
def unescapeTildes : List Char → List Char
  | [] => []
  | '~' :: '0' :: rest => '~' :: unescapeTildes rest
  | character :: rest => character :: unescapeTildes rest

/-- The step that is written so; slashes are read first. -/
def unescape (written : List Char) : List Char :=
  unescapeTildes (unescapeSlashes written)

/-- The steps of a pointer; one that does not start with a slash has none unless it is empty. -/
def steps? (pointer : String) : Option (List String) :=
  match pointer.toList with
  | [] => some []
  | '/' :: rest => some ((rest.splitOn '/').map fun part => String.ofList (unescape part))
  | _ => none

/-- The index that a step denotes: decimal digits without a leading zero. There is no largest one,
since an index behind the last item names nothing anyway. -/
def index? (step : String) : Option Nat :=
  match step.toList with
  | [] => none
  | '0' :: _ :: _ => none
  | digits => if digits.all Char.isDigit then some (Nat.ofDigitChars 10 digits 0) else none

end JsonPointer

namespace Json

/-- The value one step away. -/
def step? (step : String) : Json → Option Json
  | object members => member? step members
  | array items => do items[← JsonPointer.index? step]?
  | _ => none

/-- The value that steps lead to. -/
def follow? : (steps : List String) → Json → Option Json
  | [], value => some value
  | step :: steps, value => (value.step? step).bind (follow? steps)

/-- The value that a pointer names. -/
def pointed? (pointer : String) (value : Json) : Option Json :=
  (JsonPointer.steps? pointer).bind fun steps => follow? steps value

end Json

end ModelScribe

import ModelScribe.Decimal.Shortest
import ModelScribe.Json.Cursor
import ModelScribe.Text.Quoted

/-! # Why a text does not decode

* `PathStep`: a step from a value to one inside it.
* `DecodeProblem`: what is wrong with a value.
* `DecodeError`: the problem, its place in the text and its path in the value.
-/

namespace ModelScribe

/-- A step from a value to one inside it. -/
inductive PathStep
  | item (index : Nat)
  | key (name : String)
  /-- The key that could not be read. -/
  | unreadKey
  deriving DecidableEq

namespace PathStep

/-- The text of a step that is not the first one. -/
def text : PathStep → String
  | item index => "[" ++ toString index ++ "]"
  | key name => "." ++ name
  | unreadKey => ".?"

/-- The text of the first step, which has no dot. -/
def leadingText : PathStep → String
  | item index => "[" ++ toString index ++ "]"
  | key name => name
  | unreadKey => "?"

/-- The text of a path; a single dot for the value as a whole. -/
def pathText : List PathStep → String
  | [] => "."
  | first :: others => first.leadingText ++ String.join (others.map text)

end PathStep

/-- What a text holds where something else is wanted. -/
inductive Found
  | null
  | boolean (value : Bool)
  | integer (value : Int)
  | float (value : Float)
  | string (value : String)
  | sequence
  | map
  deriving DecidableEq

/-- The words for what a text holds. -/
def Found.description : Found → String
  | null => "null"
  | boolean value => "boolean `" ++ toString value ++ "`"
  | integer value => "integer `" ++ toString value ++ "`"
  | float value =>
      "floating point `" ++ String.ofList (Decimal.render Decimal.jsonStyle value) ++ "`"
  | string value => "string " ++ Text.quoted value
  | sequence => "sequence"
  | map => "map"

/-- What a decoder wants. -/
inductive Wanted
  | boolean
  | string
  | size
  | unit
  | sequence
  | map
  | variant
  | record (name : String)
  deriving DecidableEq

/-- The words for what a decoder wants. -/
def Wanted.description : Wanted → String
  | boolean => "a boolean"
  | string => "a string"
  | size => "usize"
  | unit => "unit"
  | sequence => "a sequence"
  | map => "a map"
  | variant => "variant identifier"
  | record name => "struct " ++ name

/-- What can be wrong with a value. -/
inductive DecodeProblem
  /-- The text is not JSON as far as it was read. -/
  | malformed (problem : JsonProblem)
  | wrongType (found : Found) (wanted : Wanted)
  | wrongValue (found : Found) (wanted : Wanted)
  | unknownVariant (name : String) (known : List String)
  | unknownField (name : String) (known : List String)
  | repeatedField (name : String)
  | missingField (name : String)
  /-- A list that stands for a record has too few items. -/
  | tooShort (length : Nat) (record : String) (fields : Nat)
  deriving DecidableEq

/-- A choice of names in words. -/
def oneOf (names : List String) : String :=
  let marked := names.map fun name => "`" ++ name ++ "`"
  match marked with
  | [] => "nothing"
  | [only] => only
  | [first, second] => first ++ " or " ++ second
  | _ => "one of " ++ String.intercalate ", " marked

/-- The words for a problem. -/
def DecodeProblem.message : DecodeProblem → String
  | malformed problem => problem.message
  | wrongType found wanted =>
      "invalid type: " ++ found.description ++ ", expected " ++ wanted.description
  | wrongValue found wanted =>
      "invalid value: " ++ found.description ++ ", expected " ++ wanted.description
  | unknownVariant name known => "unknown variant `" ++ name ++ "`, expected " ++ oneOf known
  | unknownField name known => "unknown field `" ++ name ++ "`, expected " ++ oneOf known
  | repeatedField name => "duplicate field `" ++ name ++ "`"
  | missingField name => "missing field `" ++ name ++ "`"
  | tooShort length record fields =>
      "invalid length " ++ toString length ++ ", expected struct " ++ record ++ " with " ++
        toString fields ++ " elements"

/-- Why a text does not decode, where in the text, and where in the value. -/
structure DecodeError where
  path : List PathStep
  problem : DecodeProblem
  position : Position
  deriving DecidableEq

namespace DecodeError

/-- The words for the problem and its place. -/
def text (error : DecodeError) : String :=
  error.position.describe error.problem.message

/-- The words for the problem, its place and its path. -/
def message (error : DecodeError) : String :=
  "at JSON path " ++ PathStep.pathText error.path ++ " → " ++ error.text

/-- A problem of the text itself. -/
def ofJson (error : JsonError) : DecodeError :=
  ⟨[], .malformed error.problem, error.position⟩

/-- The error as it is seen from one step further out. -/
def inside (step : PathStep) (error : DecodeError) : DecodeError :=
  { error with path := step :: error.path }

end DecodeError

end ModelScribe

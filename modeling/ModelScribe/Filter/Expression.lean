import ModelScribe.Filter.Arithmetic

/-! # Filter expressions

* `Filter.Fold`: the two ways to go through the outputs of a source.
* `Filter.Expr`: what a filter says.
* `Filter.Steps`: a path into a value, step by step.
* `Filter.Arguments`: the arguments of a call.
-/

namespace ModelScribe.Filter

/-- The ways to go through the outputs of a source, with the last result or with all of them. -/
inductive Fold
  | reduce
  | foreach
  deriving DecidableEq

/-- The numbers of arguments: a start, a step, and for each result what is made of it. -/
def Fold.takes : Fold → (arguments : Nat) → Bool
  | reduce, arguments => arguments == 2
  | foreach, arguments => arguments == 2 || arguments == 3

mutual

/-- What a filter says. -/
inductive Expr
  /-- The input itself. -/
  | identity
  /-- The filter without outputs. -/
  | nothing
  /-- The input as text. -/
  | asText
  | numeral (digits : String)
  | string (text : String)
  /-- A text whose filters write in a format, which must be known. -/
  | formatted (format : String) (text : Expr)
  | emptyArray
  /-- The list of all outputs. -/
  | collect (items : Expr)
  | emptyObject
  /-- The object with one member. -/
  | member (key value : Expr)
  | negate (operand : Expr)
  | pipe (first second : Expr)
  /-- Each output of a source under a name, the input as before. -/
  | bind (source : Expr) (name : String) (body : Expr)
  | both (first second : Expr)
  /-- The outputs that count as true, or else those of another filter. -/
  | otherwise (first second : Expr)
  | conjunction (first second : Expr)
  | disjunction (first second : Expr)
  | compare (comparison : Comparison) (first second : Expr)
  | calculate (operation : Arithmetic) (first second : Expr)
  | assign (target value : Expr)
  | update (target change : Expr)
  | updateBy (operation : Arithmetic) (target value : Expr)
  | updateOtherwise (target value : Expr)
  | label (name : String) (body : Expr)
  | leave (name : String)
  /-- A fold; its name holds in all arguments but the first. -/
  | fold (kind : Fold) (source : Expr) (name : String) (arguments : Arguments)
  /-- A filter, and another one for the values of its errors. -/
  | attempt (body handler : Expr)
  | choose (condition yes no : Expr)
  /-- A definition and the filter in which it holds; a parameter with a dollar sign is a value. -/
  | define (name : String) (parameters : List String) (body rest : Expr)
  | call (name : String) (arguments : Arguments)
  | reference (name : String)
  | path (base : Expr) (steps : Steps)

/-- The arguments of a call. -/
inductive Arguments
  | none
  | more (argument : Expr) (rest : Arguments)

/-- A path into a value; a step that is optional leads nowhere where it fails. -/
inductive Steps
  | none
  | each (optional : Bool) (rest : Steps)
  | part (key : Expr) (optional : Bool) (rest : Steps)
  | from (lower : Expr) (optional : Bool) (rest : Steps)
  | upTo (upper : Expr) (optional : Bool) (rest : Steps)
  | between (lower upper : Expr) (optional : Bool) (rest : Steps)

end

/-- The number of arguments. -/
def Arguments.size : Arguments → Nat
  | none => 0
  | more _ rest => rest.size + 1

/-- The arguments of a list. -/
def Arguments.ofList : List Expr → Arguments
  | [] => none
  | argument :: rest => more argument (ofList rest)

/-- The outputs of a path of one step. -/
def Expr.part (base : Expr) (key : String) : Expr :=
  path base (.part (string key) false .none)

/-- Whether the outputs of a filter are made by it and are no parts of its input; a call is judged
by what it leads to. -/
def Expr.makes : Expr → Bool
  | identity | nothing | pipe _ _ | bind _ _ _ | both _ _ | otherwise _ _ | label _ _ | leave _
  | fold _ _ _ _ | attempt _ _ | choose _ _ _ | define _ _ _ _ | call _ _ | path _ _ => false
  | _ => true

/-- The name, which nobody can define, of the filter for a value and everything inside it. -/
def Expr.everywhereName : String := ".."

/-- What that filter says: the input, and then the same for each of its parts. -/
def Expr.everywhere : Expr :=
  both identity (pipe (path identity (.each true .none)) (call everywhereName .none))

end ModelScribe.Filter

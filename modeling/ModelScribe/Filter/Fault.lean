import ModelScribe.Filter.Value

/-! # What can stop a filter

* `Filter.Fault`: an error with its value, or a way out of a labelled filter.
* `Filter.Outcome`: a result or a fault.
-/

namespace ModelScribe.Filter

/-- What can stop a filter. -/
inductive Fault
  /-- An error that can be caught, with its value. -/
  | raised (value : Value)
  /-- The way out of the filter with that label. -/
  | broken (label : Nat)
  /-- The filter calls itself too deeply. -/
  | tooDeep

/-- A result or a fault. -/
abbrev Outcome (α : Type) : Type := Except Fault α

namespace Fault

/-- An error with a message. -/
def message (text : String) : Fault := raised (.string text)

/-- A value of another kind is wanted. -/
def wrongKind (value : Value) (wanted : String) : Fault :=
  message ("cannot use " ++ value.text ++ " as " ++ wanted)

/-- A value has no part of that name. -/
def noPart (value part : Value) : Fault :=
  message ("cannot index " ++ value.text ++ " with " ++ part.text)

/-- Two values cannot be calculated with. -/
def noResult (first : Value) (operation : String) (second : Value) : Fault :=
  message ("cannot calculate " ++ first.text ++ " " ++ operation ++ " " ++ second.text)

/-- The words for a fault that nothing catches. -/
def words : Fault → String
  | raised value => value.text
  | broken _ => "break"
  | tooDeep => "recursion limit reached"

/-- The filter names no part of its input. -/
def noPath (input : Value) : Fault :=
  message ("invalid path expression with input " ++ input.text)

end Fault

end ModelScribe.Filter

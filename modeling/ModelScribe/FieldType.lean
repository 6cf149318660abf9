/-! # Field types

* `Primitive`: the kinds of a plain value.
* `FieldType`: the type of a field, with arrays of any depth.
* `FieldType.innermost`, `FieldType.nameObject`: the two ways to look through arrays.
-/

namespace ModelScribe

/-- The kinds of a plain value. -/
inductive Primitive
  | string
  | number
  | boolean
  | dateString
  deriving DecidableEq

/-- The name of a primitive in a declaration. -/
def Primitive.name : Primitive → String
  | string => "String"
  | number => "Number"
  | boolean => "Boolean"
  | dateString => "DateString"

/-- The type of a field. -/
inductive FieldType
  | primitive (kind : Primitive)
  /-- An object whose model has no name yet. -/
  | object
  /-- The model of that name. -/
  | reference (model : String)
  | array (item : FieldType)
  /-- The sample says nothing about the type. -/
  | untyped
  deriving DecidableEq

namespace FieldType

/-- The type below all arrays. -/
def innermost : FieldType → FieldType
  | array item => item.innermost
  | other => other

/-- The number of arrays around the innermost type. -/
def depth : FieldType → Nat
  | array item => item.depth + 1
  | _ => 0

/-- The type with its nameless object, at any depth, replaced by the model of that name. -/
def nameObject (model : String) : FieldType → FieldType
  | object => reference model
  | array item => array (item.nameObject model)
  | other => other

/-- Nothing is known about the type. -/
def isUntyped (type : FieldType) : Bool := type = untyped

@[simp]
theorem innermost_array (item : FieldType) : (array item).innermost = item.innermost := rfl

/-- Below all arrays there is no array. -/
theorem innermost_ne_array (type item : FieldType) : type.innermost ≠ array item := by
  induction type with
  | array inner ih => exact ih
  | _ => simp [innermost]

end FieldType

end ModelScribe

import ModelScribe.FieldType
import ModelScribe.Inference.DateTime
import ModelScribe.Json.Basic

/-! # The type of a sample value

* `FieldType.infer`: the type of a value; an array has the type of its first item.
* `Json.innermostFirst`: the value that an array's type was taken from.
-/

namespace ModelScribe

/-- The kind of a string. -/
def Primitive.ofString (text : String) : Primitive :=
  if Inference.isDateTime text then .dateString else .string

/-- The type of a value. An array has the type of its first item and an empty one says nothing. -/
def FieldType.infer : Json → FieldType
  | .string text => .primitive (.ofString text)
  | .number _ => .primitive .number
  | .bool _ => .primitive .boolean
  | .object _ => .object
  | .array [] => .array .untyped
  | .array (first :: _) => .array (infer first)
  | .null => .untyped

/-- The first item of an array, the first of that again while it is an array. -/
def Json.innermostFirst : Json → Option Json
  | .array (.array items :: _) => innermostFirst (.array items)
  | .array (first :: _) => some first
  | _ => none

end ModelScribe

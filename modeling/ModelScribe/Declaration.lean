import ModelScribe.FieldType

/-! # Model declarations

* `Field`: a key and its type, with its text.
* `Declaration`: a model's name and fields, and its one-line text.
-/

namespace ModelScribe

/-- The constructor that every declaration calls. -/
def factoryName : String := "JsonModel"

/-- A field of a model. -/
structure Field where
  key : String
  type : FieldType
  deriving DecidableEq

namespace FieldType

/-- The text of a type where no quotes are used: in an array, and of a reference. -/
def bareText : FieldType → String
  | primitive kind => kind.name
  | reference model => model
  | array item => bareText item
  | object => "Object"
  | untyped => "null"

/-- The text of a type: a primitive between quotes, any depth of arrays as one pair of brackets. -/
def text : FieldType → String
  | primitive kind => "'" ++ kind.name ++ "'"
  | array item => "[" ++ item.bareText ++ "]"
  | other => other.bareText

/-- The bare text looks through arrays. -/
theorem bareText_innermost (type : FieldType) : type.innermost.bareText = type.bareText := by
  induction type with
  | array item ih => exact ih
  | _ => rfl

end FieldType

/-- The text of a field. -/
def Field.text (field : Field) : String :=
  " " ++ field.key ++ ": \x7b type: " ++ field.type.text ++ " \x7d "

/-- The text of a declaration on one line. -/
def declarationText (model : String) (fields : List Field) : String :=
  "const " ++ model ++ " = new " ++ factoryName ++ ".define(\x7b " ++
    String.intercalate "," (fields.map Field.text) ++ " \x7d);"

/-- The declaration of a model. -/
structure Declaration where
  model : String
  /-- The fields in the order of the sample's keys. -/
  fields : List Field
  /-- The text of the declaration on one line. -/
  rendered : String
  deriving DecidableEq

/-- The declaration of a model with these fields. -/
def Declaration.of (model : String) (fields : List Field) : Declaration :=
  ⟨model, fields, declarationText model fields⟩

/-- The name of the model of the objects under a key. -/
def nestedModel (key : String) : String := key ++ "Model"

end ModelScribe

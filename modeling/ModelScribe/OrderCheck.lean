import ModelScribe.Module.Plan
import ModelScribe.Text.Word

/-! # Declarations before references

A check of the text of a module, line by line: a model is declared on an earlier line than the first
one that refers to it. A name is what one word is made of.

* `OrderCheck.referenced`: the models that a line refers to.
* `OrderCheck.declared?`: the model that a line declares.
* `OrderCheck.check`: the number of declarations, or a model that comes too late.
-/

namespace ModelScribe.OrderCheck

/-- What stands before the type of a field. -/
def typeMark : List Char := ['t', 'y', 'p', 'e', ':', ' ']

/-- What the name of a nested model ends with. -/
def modelMark : List Char := ['M', 'o', 'd', 'e', 'l']

/-- The longest start of a name that ends with `Model` and has more before that. -/
def modelPart? (name : List Char) : Option (List Char) :=
  (List.range (name.length + 1)).reverse.findSome? fun size =>
    let part := name.take size
    if modelMark.length < size ∧ modelMark.isSuffixOf part then some part else none

/-- The model that the type at the start of a text refers to, and what follows it. -/
def referenceAt? (text : List Char) : Option (List Char × List Char) :=
  if typeMark.isPrefixOf text then
    let text := text.drop typeMark.length
    let text := match text with
      | '[' :: rest => rest
      | _ => text
    (modelPart? (text.takeWhile Text.isWord)).map fun name => (name, text.drop name.length)
  else none

/-- The models that a line refers to, with the line's length as fuel. -/
def referencesIn : (fuel : Nat) → (text : List Char) → List (List Char)
  | 0, _ => []
  | _ + 1, [] => []
  | fuel + 1, character :: rest =>
      match referenceAt? (character :: rest) with
      | some (name, rest) => name :: referencesIn fuel rest
      | none => referencesIn fuel rest

/-- The models that a line refers to. -/
def referenced (line : List Char) : List (List Char) :=
  referencesIn line.length line

/-- What stands before the name of a declared model. -/
def declarationMark : List Char := ['c', 'o', 'n', 's', 't', ' ']

/-- What stands behind the name of a declared model. -/
def factoryMark : List Char := (" = new " ++ factoryName ++ ".define").toList

/-- The model that the declaration at the start of a text declares. -/
def declarationAt? (text : List Char) : Option (List Char) :=
  if declarationMark.isPrefixOf text then
    let text := text.drop declarationMark.length
    let name := text.takeWhile Text.isWord
    if !name.isEmpty ∧ factoryMark.isPrefixOf (text.drop name.length) then some name else none
  else none

/-- The model that a line declares: the first of them. -/
def declared? : (line : List Char) → Option (List Char)
  | [] => none
  | character :: rest =>
      match declarationAt? (character :: rest) with
      | some name => some name
      | none => declared? rest

/-- The models declared on some lines behind those declared before, or one that is referred to
before it is declared. -/
def checkLines : (declared : List (List Char)) → (lines : List (List Char)) →
    Except (List Char) (List (List Char))
  | declared, [] => .ok declared
  | declared, line :: lines =>
      match (referenced line).find? fun name => !declared.contains name with
      | some name => .error name
      | none => checkLines (declared ++ (declared? line).toList) lines

/-- The number of declarations in the text of a module, or a model that is referred to before it is
declared. -/
def check (text : String) : Except String Nat :=
  match checkLines [] (Text.lines text.toList) with
  | .ok declared => .ok declared.length
  | .error name => .error (String.ofList name)

end ModelScribe.OrderCheck

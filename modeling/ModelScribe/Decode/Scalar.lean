import ModelScribe.Decode.Problem
import ModelScribe.Json.Reader

/-! # Decoding plain values

A decoder reads one value from a cursor and leaves what follows unread.

* `Decoder.boolean`, `Decoder.string`, `Decoder.size`: plain values.
* `Decoder.nullable`: a value or null.
* `Decoder.variant`: a name of a fixed choice, alone or as the only key of an object over null.
-/

namespace ModelScribe

/-- Reads a value of a type from the text at a cursor. -/
abbrev Decoder (α : Type) : Type := Cursor → Except DecodeError (α × Cursor)

namespace Decoder

/-- A reading step as a decoding step. -/
def lift {α : Type} (step : Except JsonError α) : Except DecodeError α :=
  step.mapError .ofJson

/-- A decoding step whose errors lie one step further in. -/
def within {α : Type} (step : PathStep) (result : Except DecodeError α) : Except DecodeError α :=
  result.mapError (.inside step)

/-- A problem at a place. -/
def fail {α : Type} (problem : DecodeProblem) (position : Position) : Except DecodeError α :=
  .error ⟨[], problem, position⟩

/-- A number as a message shows it. -/
def foundNumber : JsonNumber → Found
  | .integer value => .integer value
  | .float value => .float value

/-- Says that another type is wanted than the text holds. A plain value is read first, a list or an
object is only looked at. -/
def refuse {α : Type} (wanted : Wanted) (cursor : Cursor) : Except DecodeError α := do
  let refused (found : Found) (cursor : Cursor) : Except DecodeError α :=
    fail (.wrongType found wanted) cursor.position
  match cursor.rest with
  | [] => lift (cursor.complain .endInValue)
  | 'n' :: _ =>
      let cursor ← lift (Json.readWord ['u', 'l', 'l'] cursor.advance)
      refused .null cursor
  | 't' :: _ =>
      let cursor ← lift (Json.readWord ['r', 'u', 'e'] cursor.advance)
      refused (.boolean true) cursor
  | 'f' :: _ =>
      let cursor ← lift (Json.readWord ['a', 'l', 's', 'e'] cursor.advance)
      refused (.boolean false) cursor
  | '"' :: _ =>
      let (text, cursor) ← lift (JsonString.read cursor.advance)
      refused (.string text) cursor
  | '-' :: _ =>
      let (value, cursor) ← lift (JsonNumber.read true cursor.advance)
      refused (foundNumber value) cursor
  | '[' :: _ => refused .sequence cursor
  | '{' :: _ => refused .map cursor
  | character :: _ =>
      if character.isDigit then
        let (value, cursor) ← lift (JsonNumber.read false cursor)
        refused (foundNumber value) cursor
      else lift (cursor.complain .expectedValue)

/-- Reads `true` or `false`. -/
def boolean : Decoder Bool := fun cursor => do
  let cursor := cursor.skipGap
  match cursor.rest with
  | 't' :: _ => return (true, ← lift (Json.readWord ['r', 'u', 'e'] cursor.advance))
  | 'f' :: _ => return (false, ← lift (Json.readWord ['a', 'l', 's', 'e'] cursor.advance))
  | _ => refuse .boolean cursor

/-- Reads a string. -/
def string : Decoder String := fun cursor =>
  let cursor := cursor.skipGap
  match cursor.rest with
  | '"' :: _ => lift (JsonString.read cursor.advance)
  | _ => refuse .string cursor

/-- A number that is a size: an integer that is not negative. -/
def sizeOf (number : JsonNumber) (cursor : Cursor) : Except DecodeError (Nat × Cursor) :=
  match number with
  | .integer (.ofNat value) => .ok (value, cursor)
  | .integer value => fail (.wrongValue (.integer value) .size) cursor.position
  | .float value => fail (.wrongType (.float value) .size) cursor.position

/-- Reads a size. -/
def size : Decoder Nat := fun cursor => do
  let cursor := cursor.skipGap
  match cursor.rest with
  | '-' :: _ =>
      let (number, cursor) ← lift (JsonNumber.read true cursor.advance)
      sizeOf number cursor
  | character :: _ =>
      if character.isDigit then
        let (number, cursor) ← lift (JsonNumber.read false cursor)
        sizeOf number cursor
      else refuse .size cursor
  | [] => refuse .size cursor

/-- Reads a null. -/
def unit : Decoder Unit := fun cursor => do
  let cursor := cursor.skipGap
  match cursor.rest with
  | 'n' :: _ => return ((), ← lift (Json.readWord ['u', 'l', 'l'] cursor.advance))
  | _ => refuse .unit cursor

/-- Reads a value or null. -/
def nullable {α : Type} (decoder : Decoder α) : Decoder (Option α) := fun cursor => do
  let cursor := cursor.skipGap
  match cursor.rest with
  | 'n' :: _ => return (none, ← lift (Json.readWord ['u', 'l', 'l'] cursor.advance))
  | _ =>
      let (value, cursor) ← decoder cursor
      return (some value, cursor)

/-- The choice of a name that has been read. -/
def chosen {α : Type} (choices : List (String × α)) (name : String) (cursor : Cursor) :
    Except DecodeError (α × Cursor) :=
  match choices.lookup name with
  | some choice => .ok (choice, cursor)
  | none => fail (.unknownVariant name (choices.map Prod.fst)) cursor.position

/-- Reads the closing brace behind the null of a choice. -/
def closeVariant (cursor : Cursor) : Except DecodeError Cursor :=
  let cursor := cursor.skipGap
  match cursor.rest with
  | [] => fail (.malformed .endInObject) cursor.position
  | '}' :: _ => .ok cursor.advance
  | _ => fail (.malformed .expectedValue) cursor.position

/-- Reads a name of a choice, alone or as the only key of an object over null. -/
def variant {α : Type} (choices : List (String × α)) : Decoder α := fun cursor => do
  let cursor := cursor.skipGap
  match cursor.rest with
  | [] => lift (cursor.complain .endInValue)
  | '"' :: _ =>
      let (name, cursor) ← lift (JsonString.read cursor.advance)
      chosen choices name cursor
  | '{' :: _ =>
      let cursor := cursor.advance.skipGap
      match cursor.rest with
      | '"' :: _ =>
          let (name, cursor) ← lift (JsonString.read cursor.advance)
          let (choice, cursor) ← chosen choices name cursor
          let cursor ← lift (Json.readColon cursor)
          let (_, cursor) ← within (.key name) (unit cursor)
          return (choice, ← closeVariant cursor)
      | _ => refuse .variant cursor
  | _ => lift (cursor.complain .expectedValue)

end Decoder

end ModelScribe

import ModelScribe.Decode.Scalar
import ModelScribe.Json.Skip

/-! # Decoding lists, maps and records

* `Decoder.list`, `Decoder.map`: any number of values of one kind.
* `Slot`, `RecordShape`: the fields of a record, in order.
* `Decoder.record`: a record, written as an object or as the list of its fields.
* `Decoder.run`: the value at the start of a text; what follows it does not matter.
-/

namespace ModelScribe

namespace Decoder

/-- Reads the items of a list, each behind its index; each item but the first takes a comma, so the
text's length is enough fuel. -/
def listItems {α : Type} (item : Decoder α) :
    (fuel : Nat) → (items : List α) → Cursor → Except DecodeError (List α × Cursor)
  | 0, _, cursor => lift (cursor.complain .endInList)
  | fuel + 1, items, cursor => do
      match ← lift (Json.nextItem items.isEmpty cursor) with
      | none => return (items.reverse, cursor.skipGap.advance)
      | some cursor =>
          let (value, cursor) ← within (.item items.length) (item cursor)
          listItems item fuel (value :: items) cursor

/-- Reads a list. -/
def list {α : Type} (item : Decoder α) : Decoder (List α) := fun cursor =>
  let cursor := cursor.skipGap
  match cursor.rest with
  | '[' :: rest => listItems item (rest.length + 1) [] cursor.advance
  | _ => refuse .sequence cursor

/-- Reads the key behind its quote. -/
def readKey (cursor : Cursor) : Except DecodeError (String × Cursor) :=
  within .unreadKey (lift (JsonString.read cursor))

/-- Reads the members of a map, with fuel as for a list. -/
def mapMembers {α : Type} (item : Decoder α) :
    (fuel : Nat) → (members : List (String × α)) → Cursor →
      Except DecodeError (List (String × α) × Cursor)
  | 0, _, cursor => lift (cursor.complain .endInObject)
  | fuel + 1, members, cursor => do
      match ← within .unreadKey (lift (Json.nextKey members.isEmpty cursor)) with
      | none => return (members.reverse, cursor.skipGap.advance)
      | some cursor =>
          let (key, cursor) ← readKey cursor
          let cursor ← lift (Json.readColon cursor)
          let (value, cursor) ← within (.key key) (item cursor)
          mapMembers item fuel ((key, value) :: members) cursor

/-- Reads a map, its members as they are written. -/
def map {α : Type} (item : Decoder α) : Decoder (List (String × α)) := fun cursor =>
  let cursor := cursor.skipGap
  match cursor.rest with
  | '{' :: rest => mapMembers item (rest.length + 1) [] cursor.advance
  | _ => refuse .map cursor

end Decoder

/-- A field of a record: its name, and how its value is read into the record. -/
structure Slot (ρ : Type) where
  name : String
  fill : ρ → Decoder ρ

/-- The fields of a record, in order. -/
structure RecordShape (ρ α : Type) where
  /-- The name of the record in messages. -/
  name : String
  slots : List (Slot ρ)
  /-- A key that is no field is an error. -/
  closed : Bool
  /-- The record before any field is read. -/
  start : ρ
  /-- The record as a whole, or the name of a field that is missing. -/
  finish : ρ → Except String α

namespace RecordShape

variable {ρ α : Type}

/-- The names of the fields, in order. -/
def names (shape : RecordShape ρ α) : List String := shape.slots.map Slot.name

end RecordShape

namespace Decoder

variable {ρ α : Type}

/-- The place that a complaint about a key names: behind the blanks after it, and behind the closing
brace if that comes next. -/
def keyPlace (cursor : Cursor) : Position :=
  let cursor := cursor.skipGap
  match cursor.rest with
  | '}' :: _ => cursor.advance.position
  | _ => cursor.position

/-- Reads the value of a key into a record; a key must not come twice. -/
def fillField (shape : RecordShape ρ α) (seen : List String) (key : String) (record : ρ)
    (cursor : Cursor) : Except DecodeError (ρ × Cursor) := do
  match shape.slots.find? (·.name = key) with
  | some slot =>
      if key ∈ seen then fail (.repeatedField key) (keyPlace cursor)
      else
        let cursor ← lift (Json.readColon cursor)
        within (.key key) (slot.fill record cursor)
  | none =>
      if shape.closed then
        within (.key key) (fail (.unknownField key shape.names) (keyPlace cursor))
      else
        let cursor ← lift (Json.readColon cursor)
        let cursor ← within (.key key) (lift (Json.skipValue cursor))
        return (record, cursor)

/-- Reads the members of an object into a record, with fuel as for a list. -/
def recordMembers (shape : RecordShape ρ α) :
    (fuel : Nat) → (seen : List String) → ρ → Cursor → Except DecodeError (ρ × Cursor)
  | 0, _, _, cursor => lift (cursor.complain .endInObject)
  | fuel + 1, seen, record, cursor => do
      match ← within .unreadKey (lift (Json.nextKey seen.isEmpty cursor)) with
      | none => return (record, cursor.skipGap.advance)
      | some cursor =>
          let (key, cursor) ← readKey cursor
          let (record, cursor) ← fillField shape seen key record cursor
          recordMembers shape fuel (key :: seen) record cursor

/-- Reads the items of a list into the fields of a record, in order. -/
def recordItems (shape : RecordShape ρ α) :
    (index : Nat) → List (Slot ρ) → ρ → Cursor → Except DecodeError (ρ × Cursor)
  | _, [], record, cursor => .ok (record, cursor)
  | index, slot :: slots, record, cursor => do
      match ← lift (Json.nextItem (index = 0) cursor) with
      | none =>
          fail (.tooShort index shape.name shape.slots.length) cursor.skipGap.advance.position
      | some cursor =>
          let (record, cursor) ← within (.item index) (slot.fill record cursor)
          recordItems shape (index + 1) slots record cursor

/-- Reads the closing bracket behind the last field of a record. -/
def closeItems (cursor : Cursor) : Except DecodeError Cursor :=
  let cursor := cursor.skipGap
  match cursor.rest with
  | [] => lift (cursor.complain .endInList)
  | ']' :: _ => .ok cursor.advance
  | ',' :: _ =>
      let cursor := cursor.advance.skipGap
      match cursor.rest with
      | ']' :: _ => lift (cursor.complain .trailingComma)
      | _ => lift (cursor.complain .trailingCharacters)
  | _ => lift (cursor.complain .trailingCharacters)

/-- The record as a whole. -/
def finishRecord (shape : RecordShape ρ α) (record : ρ) (cursor : Cursor) :
    Except DecodeError (α × Cursor) :=
  match shape.finish record with
  | .ok value => .ok (value, cursor)
  | .error name => fail (.missingField name) cursor.position

/-- Reads a record, written as an object or as the list of its fields. -/
def record (shape : RecordShape ρ α) : Decoder α := fun cursor => do
  let cursor := cursor.skipGap
  match cursor.rest with
  | '{' :: rest =>
      let (record, cursor) ← recordMembers shape (rest.length + 1) [] shape.start cursor.advance
      finishRecord shape record cursor
  | '[' :: _ =>
      let (record, cursor) ← recordItems shape 0 shape.slots shape.start cursor.advance
      let cursor ← closeItems cursor
      finishRecord shape record cursor
  | _ => refuse (.record shape.name) cursor

/-- The value at the start of a text. -/
def run (decoder : Decoder α) (text : String) : Except DecodeError α :=
  (decoder (Cursor.ofText text)).map Prod.fst

end Decoder

end ModelScribe

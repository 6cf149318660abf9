import ModelScribe.Json.Number
import ModelScribe.Json.Text

/-! # Reading JSON values

* `Json.readValue`: the value at a cursor.
* `Json.parseWritten`: a whole text as one value, its members as they are written.
* `Json.parse`: the same with repeated keys merged.

`Json.nextItem`, `Json.nextKey` and `Json.readColon` are the steps between the parts of a list and
of an object; whatever reads a list or an object takes them.
-/

namespace ModelScribe

namespace Json

/-- How many lists and objects may be open at once. -/
def nestingLimit : Nat := 127

/-- Reads the rest of a word whose first letter has been read. -/
def readWord : (expected : List Char) → Cursor → Except JsonError Cursor
  | [], cursor => .ok cursor
  | letter :: expected, cursor =>
      match cursor.rest with
      | [] => .error ⟨.endInValue, cursor.position⟩
      | character :: _ =>
          if character = letter then readWord expected cursor.advance
          else cursor.complain .expectedIdentifier

/-- Goes to the next item of a list, or says that the closing bracket comes next. -/
def nextItem (first : Bool) (cursor : Cursor) : Except JsonError (Option Cursor) :=
  let cursor := cursor.skipGap
  match cursor.rest with
  | [] => cursor.complain .endInList
  | ']' :: _ => .ok none
  | character :: _ =>
      if first then .ok (some cursor)
      else if character = ',' then
        let cursor := cursor.advance.skipGap
        match cursor.rest with
        | [] => cursor.complain .endInValue
        | ']' :: _ => cursor.complain .trailingComma
        | _ => .ok (some cursor)
      else cursor.complain .expectedListCommaOrEnd

/-- Goes to the next key of an object, behind its quote, or says that the closing brace comes
next. -/
def nextKey (first : Bool) (cursor : Cursor) : Except JsonError (Option Cursor) :=
  let cursor := cursor.skipGap
  match cursor.rest with
  | [] => cursor.complain .endInObject
  | '}' :: _ => .ok none
  | character :: _ =>
      if first then
        if character = '"' then .ok (some cursor.advance) else cursor.complain .keyMustBeString
      else if character = ',' then
        let cursor := cursor.advance.skipGap
        match cursor.rest with
        | [] => cursor.complain .endInValue
        | '"' :: _ => .ok (some cursor.advance)
        | '}' :: _ => cursor.complain .trailingComma
        | _ => cursor.complain .keyMustBeString
      else cursor.complain .expectedObjectCommaOrEnd

/-- Reads the colon behind a key. -/
def readColon (cursor : Cursor) : Except JsonError Cursor :=
  let cursor := cursor.skipGap
  match cursor.rest with
  | [] => cursor.complain .endInObject
  | ':' :: _ => .ok cursor.advance
  | _ => cursor.complain .expectedColon

/-- Reads the items of a list and its closing bracket; each item but the first takes a comma, so
the text's length is enough fuel. -/
def readItems {α : Type} (read : Cursor → Except JsonError (α × Cursor)) :
    (fuel : Nat) → (first : Bool) → Cursor → (items : List α) →
      Except JsonError (List α × Cursor)
  | 0, _, cursor, _ => cursor.complain .endInList
  | fuel + 1, first, cursor, items => do
      match ← nextItem first cursor with
      | none => return (items.reverse, cursor.skipGap.advance)
      | some cursor =>
          let (item, cursor) ← read cursor
          readItems read fuel false cursor (item :: items)

/-- Reads the members of an object and its closing brace, with fuel as for a list. -/
def readMembers {α : Type} (read : Cursor → Except JsonError (α × Cursor)) :
    (fuel : Nat) → (first : Bool) → Cursor → (members : List (String × α)) →
      Except JsonError (List (String × α) × Cursor)
  | 0, _, cursor, _ => cursor.complain .endInObject
  | fuel + 1, first, cursor, members => do
      match ← nextKey first cursor with
      | none => return (members.reverse, cursor.skipGap.advance)
      | some cursor =>
          let (key, cursor) ← JsonString.read cursor
          let cursor ← readColon cursor
          let (value, cursor) ← read cursor
          readMembers read fuel false cursor ((key, value) :: members)

/-- Reads a value; `limit` more lists and objects may be opened. -/
def readValue : (limit : Nat) → Cursor → Except JsonError (Json × Cursor)
  | limit, cursor =>
      let cursor := cursor.skipGap
      match cursor.rest with
      | [] => cursor.complain .endInValue
      | 'n' :: _ => do
          let cursor ← readWord ['u', 'l', 'l'] cursor.advance
          return (.null, cursor)
      | 't' :: _ => do
          let cursor ← readWord ['r', 'u', 'e'] cursor.advance
          return (.bool true, cursor)
      | 'f' :: _ => do
          let cursor ← readWord ['a', 'l', 's', 'e'] cursor.advance
          return (.bool false, cursor)
      | '"' :: _ => do
          let (text, cursor) ← JsonString.read cursor.advance
          return (.string text, cursor)
      | '-' :: _ => do
          let (value, cursor) ← JsonNumber.read true cursor.advance
          return (.number value, cursor)
      | '[' :: _ =>
          match limit with
          | 0 => cursor.complain .nestingTooDeep
          | limit + 1 => do
              let (items, cursor) ←
                readItems (readValue limit) (cursor.rest.length + 1) true cursor.advance []
              return (.array items, cursor)
      | '{' :: _ =>
          match limit with
          | 0 => cursor.complain .nestingTooDeep
          | limit + 1 => do
              let (members, cursor) ←
                readMembers (readValue limit) (cursor.rest.length + 1) true cursor.advance []
              return (.object members, cursor)
      | character :: _ =>
          if character.isDigit then do
            let (value, cursor) ← JsonNumber.read false cursor
            return (.number value, cursor)
          else cursor.complain .expectedValue

/-- Reads a text that is one value, its members as they are written. -/
def parseWritten (text : String) : Except JsonError Json := do
  let (value, cursor) ← readValue nestingLimit (Cursor.ofText text)
  let cursor := cursor.skipGap
  if cursor.rest.isEmpty then return value else cursor.complain .trailingCharacters

mutual

/-- The value with the repeated keys of each object merged. -/
def merged : Json → Json
  | array items => array (mergedItems items)
  | object members => object (mergeMembers (mergedMembers members))
  | null => null
  | bool value => bool value
  | number value => number value
  | string value => string value

/-- The values with the repeated keys of each object merged. -/
def mergedItems : List Json → List Json
  | [] => []
  | item :: items => merged item :: mergedItems items

/-- The members with the repeated keys of each object below them merged. -/
def mergedMembers : List (String × Json) → List (String × Json)
  | [] => []
  | (key, value) :: members => (key, merged value) :: mergedMembers members

end

/-- Reads a text that is one value. -/
def parse (text : String) : Except JsonError Json :=
  (parseWritten text).map merged

end Json

end ModelScribe

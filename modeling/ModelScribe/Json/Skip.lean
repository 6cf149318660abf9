import ModelScribe.Json.Reader

/-! # Skipping JSON values

The place behind a value that nobody asks for. Nothing of it is kept, so its lists and objects may
be nested without limit, its numbers may have any size and its escapes need not denote characters.

* `Json.skipValue`: the place behind a value.
-/

namespace ModelScribe

namespace JsonNumber

/-- Skips the digits that a point or an exponent must have. -/
def skipSomeDigits (cursor : Cursor) : Except JsonError Cursor :=
  if cursor.digits.isEmpty then cursor.complain .invalidNumber else .ok cursor.skipDigits

/-- Skips an exponent, if there is one. -/
def skipExponent (cursor : Cursor) : Except JsonError Cursor :=
  match cursor.rest with
  | 'e' :: _ | 'E' :: _ =>
      let cursor := cursor.advance
      match cursor.rest with
      | '+' :: _ | '-' :: _ => skipSomeDigits cursor.advance
      | _ => skipSomeDigits cursor
  | _ => .ok cursor

/-- Skips a point with its digits and an exponent, if there are any. -/
def skipFraction (cursor : Cursor) : Except JsonError Cursor :=
  match cursor.rest with
  | '.' :: _ => do
      let cursor ← skipSomeDigits cursor.advance
      skipExponent cursor
  | _ => skipExponent cursor

/-- Skips a number behind its sign. -/
def skip (cursor : Cursor) : Except JsonError Cursor :=
  match cursor.rest with
  | '0' :: rest =>
      let behind := cursor.advance
      if (rest.head?.map Char.isDigit).getD false then behind.complain .invalidNumber
      else skipFraction behind
  | _ => do
      let behind ← skipSomeDigits cursor
      skipFraction behind

end JsonNumber

namespace Json

/-- What an open list or object is. -/
inductive Enclosure
  | list
  | object

/-- What a value is followed by: the enclosures still open, innermost first, and whether the next
thing is a value or what comes behind one. -/
structure Skipping where
  enclosures : List Enclosure
  valueNext : Bool

/-- Skips a key and its colon behind the key's quote. -/
def skipKey (cursor : Cursor) : Except JsonError Cursor := do
  let cursor ← JsonString.skip cursor
  readColon cursor

/-- Skips the start of a value: all of a plain one, the opening bracket of a list, the opening brace
and the first key of an object. -/
def skipStart (enclosures : List Enclosure) (cursor : Cursor) :
    Except JsonError (Skipping × Cursor) := do
  let plain (step : Except JsonError Cursor) : Except JsonError (Skipping × Cursor) :=
    step.map fun cursor => (⟨enclosures, false⟩, cursor)
  let cursor := cursor.skipGap
  match cursor.rest with
  | [] => cursor.complain .endInValue
  | 'n' :: _ => plain (readWord ['u', 'l', 'l'] cursor.advance)
  | 't' :: _ => plain (readWord ['r', 'u', 'e'] cursor.advance)
  | 'f' :: _ => plain (readWord ['a', 'l', 's', 'e'] cursor.advance)
  | '"' :: _ => plain (JsonString.skip cursor.advance)
  | '-' :: _ => plain (JsonNumber.skip cursor.advance)
  | '[' :: _ =>
      let cursor := cursor.advance.skipGap
      match cursor.rest with
      | [] => cursor.complain .endInList
      | ']' :: _ => return (⟨enclosures, false⟩, cursor.advance)
      | _ => return (⟨.list :: enclosures, true⟩, cursor)
  | '{' :: _ =>
      let cursor := cursor.advance.skipGap
      match cursor.rest with
      | [] => cursor.complain .endInObject
      | '}' :: _ => return (⟨enclosures, false⟩, cursor.advance)
      | '"' :: _ => return (⟨.object :: enclosures, true⟩, ← skipKey cursor.advance)
      | _ => cursor.complain .keyMustBeString
  | character :: _ =>
      if character.isDigit then plain (JsonNumber.skip cursor)
      else cursor.complain .expectedValue

/-- Skips what comes behind a value of an enclosure: a comma, with the next key of an object, or the
closing mark. -/
def skipBehind (enclosure : Enclosure) (outer : List Enclosure) (cursor : Cursor) :
    Except JsonError (Skipping × Cursor) := do
  let cursor := cursor.skipGap
  match enclosure with
  | .list =>
      match cursor.rest with
      | [] => cursor.complain .endInList
      | ',' :: _ => return (⟨.list :: outer, true⟩, cursor.advance)
      | ']' :: _ => return (⟨outer, false⟩, cursor.advance)
      | _ => cursor.complain .expectedListCommaOrEnd
  | .object =>
      match cursor.rest with
      | [] => cursor.complain .endInObject
      | ',' :: _ =>
          let cursor := cursor.advance.skipGap
          match cursor.rest with
          | [] => cursor.complain .endInObject
          | '"' :: _ => return (⟨.object :: outer, true⟩, ← skipKey cursor.advance)
          | _ => cursor.complain .keyMustBeString
      | '}' :: _ => return (⟨outer, false⟩, cursor.advance)
      | _ => cursor.complain .expectedObjectCommaOrEnd

/-- Skips until no enclosure is open; every step takes at least one character, so the text's length
is enough fuel. -/
def skipOpen : (fuel : Nat) → Skipping → Cursor → Except JsonError Cursor
  | 0, _, cursor => cursor.complain .endInValue
  | fuel + 1, skipping, cursor =>
      if skipping.valueNext then do
        let (next, cursor) ← skipStart skipping.enclosures cursor
        skipOpen fuel next cursor
      else
        match skipping.enclosures with
        | [] => .ok cursor
        | enclosure :: outer => do
            let (next, cursor) ← skipBehind enclosure outer cursor
            skipOpen fuel next cursor

/-- Skips a value. -/
def skipValue (cursor : Cursor) : Except JsonError Cursor :=
  skipOpen (cursor.rest.length + 2) ⟨[], true⟩ cursor

end Json

end ModelScribe

import ModelScribe.Json.Cursor

/-! # Reading JSON strings

* `JsonString.read`: the string behind its opening quote.
* `JsonString.skip`: the place behind its closing quote, where the string itself does not matter
  and an escape need not denote a character.
-/

namespace ModelScribe.JsonString

/-- The value of a hexadecimal digit. -/
def hexValue? (digit : Char) : Option Nat :=
  if '0' ≤ digit ∧ digit ≤ '9' then some (digit.toNat - '0'.toNat)
  else if 'a' ≤ digit ∧ digit ≤ 'f' then some (digit.toNat - 'a'.toNat + 10)
  else if 'A' ≤ digit ∧ digit ≤ 'F' then some (digit.toNat - 'A'.toNat + 10)
  else none

/-- The value of four hexadecimal digits. -/
def hexUnit? : List Char → Option Nat
  | [first, second, third, fourth] => do
      let first ← hexValue? first
      let second ← hexValue? second
      let third ← hexValue? third
      let fourth ← hexValue? fourth
      return ((first * 16 + second) * 16 + third) * 16 + fourth
  | _ => none

/-- Reads the four hexadecimal digits of an escape; they are four bytes, whatever those hold. -/
def readUnit (cursor : Cursor) : Except JsonError (Nat × Cursor) :=
  match cursor.position.afterBytes? 4 cursor.rest with
  | none => .error ⟨.endInString, cursor.finish⟩
  | some behind =>
      match hexUnit? (cursor.rest.take 4) with
      | none => .error ⟨.invalidEscape, behind⟩
      | some unit => .ok (unit, ⟨cursor.rest.drop 4, behind⟩)

/-- Reads a character that the second half of a pair of escapes has to start with. -/
def expectInPair (expected : Char) (cursor : Cursor) : Except JsonError Cursor :=
  match cursor.rest with
  | [] => .error ⟨.endInString, cursor.position⟩
  | character :: _ =>
      if character = expected then .ok cursor.advance else cursor.complain .endOfHexEscape

/-- The first half of a pair of escapes. -/
def isHighUnit (unit : Nat) : Bool := 0xD800 ≤ unit && unit ≤ 0xDBFF

/-- The second half of a pair of escapes. -/
def isLowUnit (unit : Nat) : Bool := 0xDC00 ≤ unit && unit ≤ 0xDFFF

/-- The character that a pair of escapes denotes. -/
def pairedChar (high low : Nat) : Char :=
  Char.ofNat ((high - 0xD800) * 0x400 + (low - 0xDC00) + 0x10000)

/-- Reads the character of a hexadecimal escape, which may be a pair of them. -/
def readCodePoint (cursor : Cursor) : Except JsonError (Char × Cursor) := do
  let (unit, cursor) ← readUnit cursor
  if isLowUnit unit then .error ⟨.loneSurrogate, cursor.position⟩
  else if isHighUnit unit then
    let cursor ← expectInPair '\\' cursor
    let cursor ← expectInPair 'u' cursor
    let (low, cursor) ← readUnit cursor
    if isLowUnit low then .ok (pairedChar unit low, cursor)
    else .error ⟨.loneSurrogate, cursor.position⟩
  else .ok (Char.ofNat unit, cursor)

/-- The character that a letter behind a backslash denotes. -/
def escapedChar? : Char → Option Char
  | '"' => some '"'
  | '\\' => some '\\'
  | '/' => some '/'
  | 'b' => some '\x08'
  | 'f' => some '\x0c'
  | 'n' => some '\n'
  | 'r' => some '\r'
  | 't' => some '\t'
  | _ => none

/-- Reads the rest of an escape behind its backslash. -/
def readEscape (cursor : Cursor) : Except JsonError (Char × Cursor) :=
  match cursor.rest with
  | [] => .error ⟨.endInString, cursor.position⟩
  | 'u' :: _ => readCodePoint cursor.advance
  | letter :: _ =>
      match escapedChar? letter with
      | some character => .ok (character, cursor.advance)
      | none => cursor.complain .invalidEscape

/-- A control character must be escaped. -/
def isControl (character : Char) : Bool := character.toNat < 0x20

/-- Reads characters up to the closing quote; each takes at least one character of the text, so the
text's length is enough fuel. -/
def readFrom : (fuel : Nat) → Cursor → (read : List Char) → Except JsonError (List Char × Cursor)
  | 0, cursor, _ => .error ⟨.endInString, cursor.position⟩
  | fuel + 1, cursor, read =>
      match cursor.rest with
      | [] => .error ⟨.endInString, cursor.position⟩
      | '"' :: _ => .ok (read.reverse, cursor.advance)
      | '\\' :: _ => do
          let (character, cursor) ← readEscape cursor.advance
          readFrom fuel cursor (character :: read)
      | character :: _ =>
          if isControl character then cursor.complain .controlCharacter
          else readFrom fuel cursor.advance (character :: read)

/-- Reads a string behind its opening quote. -/
def read (cursor : Cursor) : Except JsonError (String × Cursor) := do
  let (text, cursor) ← readFrom (cursor.rest.length + 1) cursor []
  return (String.ofList text, cursor)

/-- Skips the rest of an escape behind its backslash. -/
def skipEscape (cursor : Cursor) : Except JsonError Cursor :=
  match cursor.rest with
  | [] => .error ⟨.endInString, cursor.position⟩
  | 'u' :: _ => do
      let (_, cursor) ← readUnit cursor.advance
      return cursor
  | letter :: _ =>
      if (escapedChar? letter).isSome then .ok cursor.advance
      else cursor.complain .invalidEscape

/-- Skips characters up to the closing quote, with fuel as for reading. -/
def skipFrom : (fuel : Nat) → Cursor → Except JsonError Cursor
  | 0, cursor => .error ⟨.endInString, cursor.position⟩
  | fuel + 1, cursor =>
      match cursor.rest with
      | [] => .error ⟨.endInString, cursor.position⟩
      | '"' :: _ => .ok cursor.advance
      | '\\' :: _ => do
          let cursor ← skipEscape cursor.advance
          skipFrom fuel cursor
      | character :: _ =>
          if isControl character then .error ⟨.controlCharacter, cursor.position⟩
          else skipFrom fuel cursor.advance

/-- Skips a string behind its opening quote. -/
def skip (cursor : Cursor) : Except JsonError Cursor :=
  skipFrom (cursor.rest.length + 1) cursor

end ModelScribe.JsonString

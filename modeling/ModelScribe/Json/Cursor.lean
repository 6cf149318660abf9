/-! # Places in a JSON text

* `Position`: a line, from one, and the number of bytes before the place on that line.
* `Cursor`: what is left to read, and where it starts.
* `JsonError`: what is wrong with a text, and where.
-/

namespace ModelScribe

/-- A place in a text: its line, counted from one, and the bytes before it on that line. -/
structure Position where
  line : Nat
  column : Nat
  deriving DecidableEq

namespace Position

/-- The place where a text starts. -/
def start : Position := ⟨1, 0⟩

/-- The place behind a character. -/
def after (position : Position) (character : Char) : Position :=
  if character = '\n' then ⟨position.line + 1, 0⟩
  else ⟨position.line, position.column + character.utf8Size⟩

/-- The place behind the first byte of a character. -/
def afterByte (position : Position) (character : Char) : Position :=
  if character = '\n' then ⟨position.line + 1, 0⟩ else ⟨position.line, position.column + 1⟩

/-- The place behind so many bytes of a text, if it has as many. -/
def afterBytes? : (bytes : Nat) → (text : List Char) → Position → Option Position
  | 0, _, position => some position
  | _ + 1, [], _ => none
  | bytes + 1, character :: rest, position =>
      if character.utf8Size ≤ bytes + 1 then
        afterBytes? (bytes + 1 - character.utf8Size) rest (position.after character)
      else some ⟨position.line, position.column + (bytes + 1)⟩

end Position

/-- What can be wrong with a JSON text. -/
inductive JsonProblem
  | endInValue
  | endInList
  | endInObject
  | endInString
  | expectedColon
  | expectedListCommaOrEnd
  | expectedObjectCommaOrEnd
  | expectedIdentifier
  | expectedValue
  | invalidEscape
  | invalidNumber
  | numberOutOfRange
  | controlCharacter
  | keyMustBeString
  | loneSurrogate
  | trailingComma
  | trailingCharacters
  | endOfHexEscape
  | nestingTooDeep
  deriving DecidableEq

/-- The words for a problem. -/
def JsonProblem.message : JsonProblem → String
  | endInValue => "EOF while parsing a value"
  | endInList => "EOF while parsing a list"
  | endInObject => "EOF while parsing an object"
  | endInString => "EOF while parsing a string"
  | expectedColon => "expected `:`"
  | expectedListCommaOrEnd => "expected `,` or `]`"
  | expectedObjectCommaOrEnd => "expected `,` or `\x7d`"
  | expectedIdentifier => "expected ident"
  | expectedValue => "expected value"
  | invalidEscape => "invalid escape"
  | invalidNumber => "invalid number"
  | numberOutOfRange => "number out of range"
  | controlCharacter => "control character (\\u0000-\\u001F) found while parsing a string"
  | keyMustBeString => "key must be a string"
  | loneSurrogate => "lone leading surrogate in hex escape"
  | trailingComma => "trailing comma"
  | trailingCharacters => "trailing characters"
  | endOfHexEscape => "unexpected end of hex escape"
  | nestingTooDeep => "recursion limit exceeded"

/-- A message with the place it is about. -/
def Position.describe (position : Position) (message : String) : String :=
  message ++ " at line " ++ toString position.line ++ " column " ++ toString position.column

/-- A problem of a JSON text and its place. -/
structure JsonError where
  problem : JsonProblem
  position : Position
  deriving DecidableEq

/-- The words for a problem and its place. -/
def JsonError.message (error : JsonError) : String :=
  error.position.describe error.problem.message

/-- The unread end of a text, and the place where it starts. -/
structure Cursor where
  rest : List Char
  position : Position

namespace Cursor

/-- The whole of a text, unread. -/
def ofText (text : String) : Cursor := ⟨text.toList, .start⟩

/-- The cursor behind the next character. -/
def advance (cursor : Cursor) : Cursor :=
  match cursor.rest with
  | [] => cursor
  | character :: rest => ⟨rest, cursor.position.after character⟩

/-- The place that a complaint about the next character names. -/
def ahead (cursor : Cursor) : Position :=
  match cursor.rest with
  | [] => cursor.position
  | character :: _ => cursor.position.afterByte character

/-- The place where the text ends. -/
def finish (cursor : Cursor) : Position :=
  cursor.rest.foldl Position.after cursor.position

/-- The blanks between the tokens of a JSON text. -/
def isGap (character : Char) : Bool :=
  character == ' ' || character == '\n' || character == '\t' || character == '\r'

/-- The cursor behind the characters of a text that satisfy a test. -/
def skipFrom (test : Char → Bool) : (text : List Char) → Position → Cursor
  | [], position => ⟨[], position⟩
  | character :: rest, position =>
      if test character then skipFrom test rest (position.after character)
      else ⟨character :: rest, position⟩

/-- The cursor at the next token. -/
def skipGap (cursor : Cursor) : Cursor :=
  skipFrom isGap cursor.rest cursor.position

/-- The cursor behind a run of decimal digits. -/
def skipDigits (cursor : Cursor) : Cursor :=
  skipFrom Char.isDigit cursor.rest cursor.position

/-- The run of decimal digits at the cursor. -/
def digits (cursor : Cursor) : List Char :=
  cursor.rest.takeWhile Char.isDigit

/-- A complaint about the next character. -/
def complain {α : Type} (cursor : Cursor) (problem : JsonProblem) : Except JsonError α :=
  .error ⟨problem, cursor.ahead⟩

end Cursor

end ModelScribe

import ModelScribe.Decimal.Shortest
import ModelScribe.Json.Basic

/-! # Printing JSON values

The text of a value on one line, without blanks.
-/

namespace ModelScribe

/-- An ASCII character as its number in hexadecimal. -/
def JsonString.numbered (character : Char) : List Char :=
  ['\\', 'u', '0', '0', Nat.digitChar (character.toNat / 16), Nat.digitChar (character.toNat % 16)]

/-- How one character of a string is written. -/
def JsonString.written (character : Char) : List Char :=
  if character = '"' then ['\\', '"']
  else if character = '\\' then ['\\', '\\']
  else if character = '\n' then ['\\', 'n']
  else if character = '\r' then ['\\', 'r']
  else if character = '\t' then ['\\', 't']
  else if character = '\x08' then ['\\', 'b']
  else if character = '\x0c' then ['\\', 'f']
  else if character.toNat < 0x20 then numbered character
  else [character]

/-- A string between its quotes. -/
def JsonString.print (text : String) : List Char :=
  '"' :: text.toList.flatMap JsonString.written ++ ['"']

/-- The digits of an integer, behind a minus sign if it is negative. -/
def JsonNumber.printInteger : Int → List Char
  | .ofNat value => Nat.toDigits 10 value
  | .negSucc value => '-' :: Nat.toDigits 10 (value + 1)

/-- The text of a number; one that is not finite has none and is written `null`. -/
def JsonNumber.print : JsonNumber → List Char
  | integer value => printInteger value
  | float value =>
      if value.isFinite then Decimal.render Decimal.jsonStyle value else ['n', 'u', 'l', 'l']

namespace Json

mutual

/-- The text of a value. -/
def print : Json → List Char
  | null => ['n', 'u', 'l', 'l']
  | bool true => ['t', 'r', 'u', 'e']
  | bool false => ['f', 'a', 'l', 's', 'e']
  | number value => value.print
  | string value => JsonString.print value
  | array items => '[' :: printItems items ++ [']']
  | object members => '{' :: printMembers members ++ ['}']

/-- The texts of the items of a list, commas between them. -/
def printItems : List Json → List Char
  | [] => []
  | [item] => print item
  | item :: next :: items => print item ++ ',' :: printItems (next :: items)

/-- The texts of the members of an object, commas between them. -/
def printMembers : List (String × Json) → List Char
  | [] => []
  | [(key, value)] => JsonString.print key ++ ':' :: print value
  | (key, value) :: next :: members =>
      JsonString.print key ++ ':' :: print value ++ ',' :: printMembers (next :: members)

end

end Json

end ModelScribe

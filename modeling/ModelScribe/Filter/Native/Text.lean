import ModelScribe.Filter.Native.Collection
import ModelScribe.Filter.Native.Written

/-! # Filters on texts

What the named filters do that look at strings, and the text formats behind an at sign.
-/

namespace ModelScribe.Filter.Value

/-- A value as the string of its text. -/
def toStringValue (value : Value) : Outcome Value := .ok (string value.toText)

/-- A JSON text as a value. -/
def fromText (value : Value) : Outcome Value := do
  let text ← value.stringOf
  match ofText text with
  | .ok found => return found
  | .error wanted =>
      .error (.message ("cannot parse " ++ text ++ " as JSON: " ++ wanted.message))

/-- A value as a number: a number as it is, a string as the value whose text it is. -/
def toNumber (value : Value) : Outcome Value :=
  match value with
  | integer _ | float _ | numeral _ => .ok value
  | value => value.fromText

/-- A string with its characters changed. -/
def mapText (change : List Char → List Char) (value : Value) : Outcome Value := do
  return string (String.ofList (change (← value.stringOf).toList))

/-- An ASCII letter in the lower case. -/
def lower (character : Char) : Char := character.toLower

/-- An ASCII letter in the upper case. -/
def upper (character : Char) : Char := character.toUpper

/-- The number of bytes of a string. -/
def byteLength (value : Value) : Outcome Value := do
  return integer ((← value.stringOf).utf8ByteSize : Nat)

/-- The code points of a string. -/
def codePoints (value : Value) : Outcome Value := do
  return array ((← value.stringOf).toList.map fun character => integer (character.toNat : Nat))

/-- The character of a code point, which is at most 32 bits long. -/
def characterOf (value : Value) : Outcome Char := do
  let code ← value.asInteger
  if code < 0 ∨ 0xFFFFFFFF < code then
    .error (.message "out of range integral type conversion attempted")
  else if code.toNat.isValidChar then return Char.ofNat code.toNat
  else .error (.message ("cannot use " ++ value.text ++ " as character"))

/-- The string of a list of code points. -/
def ofCodePoints (value : Value) : Outcome Value := do
  return string (String.ofList (← (← value.items).mapM characterOf))

/-- Whether a string starts with another. -/
def startsWith (value start : Value) : Outcome Value := do
  let text ← value.stringOf
  return bool ((← start.stringOf).toList.isPrefixOf text.toList)

/-- Whether a string ends with another. -/
def endsWith (value finish : Value) : Outcome Value := do
  let text ← value.stringOf
  return bool ((← finish.stringOf).toList.isSuffixOf text.toList)

/-- A string without another at its start. -/
def withoutStart (value start : Value) : Outcome Value := do
  let text ← value.stringOf
  let start ← start.stringOf
  if start.toList.isPrefixOf text.toList then
    return string (String.ofList (text.toList.drop start.length))
  else return string text

/-- A string without another at its end. -/
def withoutEnd (value finish : Value) : Outcome Value := do
  let text ← value.stringOf
  let finish ← finish.stringOf
  if finish.toList.isSuffixOf text.toList then
    return string (String.ofList (text.toList.take (text.length - finish.length)))
  else return string text

/-- The parts of a string between the places of another. -/
def splitAt (value separator : Value) : Outcome Value := do
  return array (splitText (← value.stringOf) (← separator.stringOf))

/-- The places where a text has another one in it. -/
def textPlaces (text inner : List Char) : List Nat :=
  if inner.isEmpty then []
  else ((endings text).zipIdx.filter fun (rest, _) => inner.isPrefixOf rest).map Prod.snd

/-- The places of a value in a string or list. -/
def places (value inner : Value) : Outcome (List Nat) :=
  match value, inner with
  | string text, string inner => .ok (textPlaces text.toList inner.toList)
  | array items, array inner => .ok (if inner.isEmpty then [] else listPlaces items inner)
  | array items, inner => .ok (listPlaces items [inner])
  | value, inner => .error (.noPart value inner)

/-- The places of a value in a string or list, as a list. -/
def indices (value inner : Value) : Outcome Value := do
  return array ((← value.places inner).map fun place => integer (place : Nat))

/-- A place, or null. -/
def orNull : Option Nat → Value
  | some place => integer (place : Nat)
  | none => null

/-- The first place of a value in a string or list, or null. -/
def firstPlace (value inner : Value) : Outcome Value := do
  return orNull (← value.places inner).head?

/-- The last place of a value in a string or list, or null. -/
def lastPlace (value inner : Value) : Outcome Value := do
  return orNull (← value.places inner).getLast?

/-- A text with some characters spelled otherwise. -/
def respell (spell : Char → List Char) (value : Value) : Outcome Value :=
  .ok (string (String.ofList (value.toText.toList.flatMap spell)))

/-- A character of a text between tags. -/
def markupChar : Char → List Char
  | '<' => "&lt;".toList
  | '>' => "&gt;".toList
  | '&' => "&amp;".toList
  | '\'' => "&#39;".toList
  | '"' => "&quot;".toList
  | character => [character]

/-- A byte in upper-case hexadecimal behind a percent sign. -/
def percentByte (byte : UInt8) : List Char :=
  let digit (value : Nat) : Char := (Nat.digitChar value).toUpper
  ['%', digit (byte.toNat / 16), digit (byte.toNat % 16)]

/-- A character of an address: letters, digits and four marks stay as they are. -/
def addressChar (character : Char) : List Char :=
  if character.isAlphanum || character ∈ ['-', '_', '.', '~'] then [character]
  else (String.singleton character).toUTF8.toList.flatMap percentByte

/-- A scalar of a table of commas: strings between quotes, null empty. -/
def commaCell : Value → Outcome String
  | null => .ok ""
  | string text => .ok ("\"" ++ text.replace "\"" "\"\"" ++ "\"")
  | array items => .error (.wrongKind (array items) "valid in a csv row")
  | object members => .error (.wrongKind (object members) "valid in a csv row")
  | value => .ok value.text

/-- A character of a table of tabs. -/
def tabChar : Char → List Char
  | '\t' => ['\\', 't']
  | '\r' => ['\\', 'r']
  | '\n' => ['\\', 'n']
  | '\\' => ['\\', '\\']
  | character => [character]

/-- A scalar of a table of tabs, null empty. -/
def tabCell : Value → Outcome String
  | null => .ok ""
  | string text => .ok (String.ofList (text.toList.flatMap tabChar))
  | array items => .error (.wrongKind (array items) "valid in a tsv row")
  | object members => .error (.wrongKind (object members) "valid in a tsv row")
  | value => .ok value.text

/-- A row of a table. -/
def row (cell : Value → Outcome String) (separator : String) (value : Value) : Outcome Value := do
  return string (String.intercalate separator (← (← value.items).mapM cell))

/-- A word of a command: strings between single quotes. -/
def commandWord : Value → Outcome String
  | string text => .ok ("'" ++ text.replace "'" "'\\''" ++ "'")
  | array items => .error (.wrongKind (array items) "escapable for shell")
  | object members => .error (.wrongKind (object members) "escapable for shell")
  | value => .ok value.text

/-- The words of a command. -/
def command (value : Value) : Outcome Value := do
  match value with
  | array items => return string (String.intercalate " " (← items.mapM commandWord))
  | value => return string (← commandWord value)

/-- The sign of six bits. -/
def sixBitSign (bits : Nat) : Char :=
  if bits < 26 then Char.ofNat ('A'.toNat + bits)
  else if bits < 52 then Char.ofNat ('a'.toNat + (bits - 26))
  else if bits < 62 then Char.ofNat ('0'.toNat + (bits - 52))
  else if bits = 62 then '+'
  else '/'

/-- Bytes as signs of six bits, four for each three bytes. -/
def sixBitText : List UInt8 → List Char
  | [] => []
  | [first] =>
      let bits := first.toNat * 16
      [sixBitSign (bits / 64), sixBitSign (bits % 64), '=', '=']
  | [first, second] =>
      let bits := (first.toNat * 256 + second.toNat) * 4
      [sixBitSign (bits / 4096), sixBitSign (bits / 64 % 64), sixBitSign (bits % 64), '=']
  | first :: second :: third :: rest =>
      let bits := (first.toNat * 256 + second.toNat) * 256 + third.toNat
      sixBitSign (bits / 262144) :: sixBitSign (bits / 4096 % 64) :: sixBitSign (bits / 64 % 64) ::
        sixBitSign (bits % 64) :: sixBitText rest

/-- The bytes of a value's text as signs of six bits. -/
def toSixBits (value : Value) : Outcome Value :=
  .ok (string (String.ofList (sixBitText value.toText.toUTF8.toList)))

/-- The six bits of a sign. -/
def sixBits? (sign : Char) : Option Nat :=
  (List.range 64).find? fun bits => sixBitSign bits = sign

/-- The bytes of signs of six bits. -/
def sixBitBytes : List Nat → List UInt8
  | first :: second :: third :: fourth :: rest =>
      let bits := ((first * 64 + second) * 64 + third) * 64 + fourth
      UInt8.ofNat (bits / 65536) :: UInt8.ofNat (bits / 256 % 256) ::
        UInt8.ofNat (bits % 256) :: sixBitBytes rest
  | [first, second, third] =>
      let bits := (first * 64 + second) * 64 + third
      [UInt8.ofNat (bits / 1024), UInt8.ofNat (bits / 4 % 256)]
  | [first, second] => [UInt8.ofNat ((first * 64 + second) / 16)]
  | _ => []

/-- The text whose bytes a string spells in signs of six bits. -/
def fromSixBits (value : Value) : Outcome Value := do
  let signs := (← value.stringOf).toList.reverse.dropWhile (· == '=') |>.reverse
  match signs.mapM sixBits? with
  | none => .error (.wrongKind value "base64-encoded")
  | some bits =>
      match String.fromUTF8? (ByteArray.mk (sixBitBytes bits).toArray) with
      | some text => return string text
      | none => .error (.wrongKind value "base64-encoded")

end ModelScribe.Filter.Value

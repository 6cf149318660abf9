import ModelScribe.Filter.Token
import ModelScribe.Filter.Value

/-! # Values written as JSON

A JSON text within a filter has the grammar of a document, but its numbers stay as they are written
and may be of any size, and what is wrong with it is told by what should stand there.

* `Filter.Wanted`: what a text does not have where it should.
* `Filter.Value.ofText`: the value that a text says.
-/

namespace ModelScribe.Filter

/-- What a text does not have where it should. -/
inductive Wanted
  | value
  | valueOrEnd
  | commaOrEnd
  | key
  | colon
  | digit
  | finish
  /-- A string whose own text is in order. -/
  | sound (problem : JsonProblem)
  deriving DecidableEq

/-- The words for what is wanted. -/
def Wanted.message : Wanted → String
  | value => "value expected"
  | valueOrEnd => "value or end of sequence expected"
  | commaOrEnd => "comma or end of sequence expected"
  | key => "string expected"
  | colon => "colon expected"
  | digit => "digit expected"
  | finish => "end of file expected"
  | sound problem => problem.message

/-- The text behind its leading blanks. -/
def behindGap (text : List Char) : List Char := text.dropWhile Cursor.isGap

/-- Reads digits, at least one. -/
def readDigits (text : List Char) : Except Wanted (List Char × List Char) :=
  match Token.digitsAt? text with
  | some found => .ok found
  | none => .error .digit

/-- Reads the whole part of a number; behind a leading zero it ends. -/
def readWhole : (text : List Char) → Except Wanted (List Char × List Char)
  | '0' :: rest => .ok (['0'], rest)
  | text => readDigits text

/-- Reads the point and the digits behind it, if there is a point. -/
def readFraction : (text : List Char) → Except Wanted (List Char × List Char)
  | '.' :: rest => (readDigits rest).map fun (digits, rest) => ('.' :: digits, rest)
  | text => .ok ([], text)

/-- Reads the exponent, if there is one. -/
def readExponent (text : List Char) : Except Wanted (List Char × List Char) :=
  match Token.exponentAt? text with
  | some found => .ok found
  | none => .error .digit

/-- The number of a numeral that may have a minus sign in front. -/
def Value.ofSignedNumeral (numeral : List Char) : Value :=
  match numeral with
  | '-' :: digits =>
      if digits.all Char.isDigit ∧ isSmall (-(decimal digits : Int)) then
        integer (-(decimal digits : Int))
      else .numeral (String.ofList numeral)
  | _ => ofNumeral (String.ofList numeral)

/-- Reads a number. -/
def readNumber (text : List Char) : Except Wanted (Value × List Char) := do
  let (sign, text) := match text with
    | '-' :: rest => (['-'], rest)
    | _ => ([], text)
  let (whole, text) ← readWhole text
  let (fraction, text) ← readFraction text
  let (exponent, text) ← readExponent text
  return (.ofSignedNumeral (sign ++ whole ++ fraction ++ exponent), text)

/-- Reads a string behind its opening quote. -/
def readText (text : List Char) : Except Wanted (String × List Char) :=
  match JsonString.read ⟨text, .start⟩ with
  | .ok (read, cursor) => .ok (read, cursor.rest)
  | .error error => .error (.sound error.problem)

/-- Reads a key and the colon behind it. -/
def readKey (text : List Char) : Except Wanted (String × List Char) := do
  match behindGap text with
  | [] => .error .value
  | '"' :: text =>
      let (key, text) ← readText text
      match behindGap text with
      | ':' :: rest => return (key, rest)
      | _ => .error .colon
  | _ => .error .key

mutual

/-- Reads a value. Each call reads a character or leaves that to the next call, so twice the text's
length is enough fuel. -/
def readValue : (fuel : Nat) → (text : List Char) → Except Wanted (Value × List Char)
  | 0, _ => .error .value
  | fuel + 1, text =>
      match behindGap text with
      | 'n' :: 'u' :: 'l' :: 'l' :: rest => .ok (.null, rest)
      | 't' :: 'r' :: 'u' :: 'e' :: rest => .ok (.bool true, rest)
      | 'f' :: 'a' :: 'l' :: 's' :: 'e' :: rest => .ok (.bool false, rest)
      | '"' :: rest => (readText rest).map fun (read, rest) => (.string read, rest)
      | '[' :: rest =>
          match behindGap rest with
          | [] => .error .valueOrEnd
          | ']' :: rest => .ok (.array [], rest)
          | rest => (readItems fuel rest).map fun (items, rest) => (.array items, rest)
      | '{' :: rest =>
          match behindGap rest with
          | [] => .error .valueOrEnd
          | '}' :: rest => .ok (.object [], rest)
          | rest =>
              (readMembers fuel rest).map fun (members, rest) =>
                (.object (Value.insertAll members []), rest)
      | [] => .error .value
      | first :: rest =>
          if first.isDigit ∨ first = '-' then readNumber (first :: rest) else .error .value

/-- Reads the items of a list, at least one, and the closing bracket. -/
def readItems : (fuel : Nat) → (text : List Char) → Except Wanted (List Value × List Char)
  | 0, _ => .error .value
  | fuel + 1, text => do
      let (item, text) ← readValue fuel text
      match behindGap text with
      | ']' :: rest => return ([item], rest)
      | ',' :: rest =>
          let (items, rest) ← readItems fuel rest
          return (item :: items, rest)
      | _ => .error .commaOrEnd

/-- Reads the members of an object, at least one, and the closing brace. -/
def readMembers : (fuel : Nat) → (text : List Char) →
    Except Wanted (List (String × Value) × List Char)
  | 0, _ => .error .value
  | fuel + 1, text => do
      let (key, text) ← readKey text
      let (value, text) ← readValue fuel text
      match behindGap text with
      | '}' :: rest => return ([(key, value)], rest)
      | ',' :: rest =>
          let (members, rest) ← readMembers fuel rest
          return ((key, value) :: members, rest)
      | _ => .error .commaOrEnd

end

/-- The value that a text says. -/
def Value.ofText (text : String) : Except Wanted Value := do
  let (value, rest) ← readValue (2 * text.length + 2) text.toList
  if (behindGap rest).isEmpty then return value else .error .finish

end ModelScribe.Filter

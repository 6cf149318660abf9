import ModelScribe.Json.Text
import ModelScribe.Text.Blank

/-! # Tokens of filters

* `Filter.Token`: a token. A string is the tokens between its quotes, because it may hold filters.
* `Filter.Token.scan`: the tokens of a text, if all of it is made of tokens and every bracket is
  closed by its own kind.
-/

namespace ModelScribe.Filter

/-- A token of a filter. -/
inductive Token
  /-- A name, or two of them with two colons in between. -/
  | word (name : String)
  | reference (name : String)
  /-- The name of a text format, with its at sign. -/
  | format (name : String)
  | numeral (digits : String)
  /-- A key behind a dot. -/
  | field (key : String)
  | symbol (sign : String)
  | opening (bracket : Char)
  | closing (bracket : Char)
  | quoteOpening
  | quoted (text : String)
  /-- The start and the end of a filter inside a string. -/
  | filterOpening
  | filterClosing
  | quoteClosing
  deriving DecidableEq

namespace Token

/-- A letter that a name may start with. -/
def startsName (character : Char) : Bool := character.isAlpha || character == '_'

/-- A character inside a name. -/
def inName (character : Char) : Bool := character.isAlphanum || character == '_'

/-- The letters, digits and underscores at the start of a text, and what follows them. -/
def nameAt (text : List Char) : List Char × List Char :=
  (text.takeWhile inName, text.dropWhile inName)

/-- The mark of a text format or a variable at the start of a text, and what follows it. -/
def markAt : List Char → List Char × List Char
  | '@' :: rest => (['@'], rest)
  | '$' :: rest => (['$'], rest)
  | rest => ([], rest)

/-- The rest of a word, which may be qualified once, and what follows it. -/
def wordAt (text : List Char) : List Char × List Char :=
  match nameAt text with
  | (name, ':' :: ':' :: behind) =>
      let (mark, start) := markAt behind
      if (start.head?.map startsName).getD false then
        let (qualified, rest) := nameAt start
        (name ++ [':', ':'] ++ mark ++ qualified, rest)
      else (name, ':' :: ':' :: behind)
  | found => found

/-- What follows a comment; an odd number of backslashes at the end of a line takes the next line
with it. -/
def behindComment (odd : Bool) : List Char → List Char
  | [] => []
  | '\r' :: '\n' :: rest => if odd then behindComment false rest else rest
  | character :: rest =>
      if character = '\n' then if odd then behindComment false rest else rest
      else if character = '\\' then behindComment (!odd) rest
      else behindComment false rest

/-- The signs of two or three characters, the longer ones first. -/
def longSigns : List String :=
  ["//=", "|=", "+=", "-=", "*=", "/=", "%=", "==", "!=", "<=", ">=", "//", ".."]

/-- The signs of one character. -/
def shortSigns : List Char :=
  ['|', ',', ';', ':', '?', '.', '=', '<', '>', '+', '-', '*', '/', '%']

/-- The sign at the start of a text, and what follows it. -/
def signAt? (text : List Char) : Option (String × List Char) :=
  match longSigns.find? fun sign => sign.toList.isPrefixOf text with
  | some sign => some (sign, text.drop sign.length)
  | none =>
      match text with
      | [] => none
      | character :: rest =>
          if character ∈ shortSigns then some (String.singleton character, rest) else none

/-- The digits at the start of a text, at least one, and what follows them. -/
def digitsAt? (text : List Char) : Option (List Char × List Char) :=
  match text.takeWhile Char.isDigit with
  | [] => none
  | digits => some (digits, text.dropWhile Char.isDigit)

/-- The exponent at the start of a text, if there is one, and what follows it. -/
def exponentAt? : List Char → Option (List Char × List Char)
  | letter :: rest =>
      if letter = 'e' ∨ letter = 'E' then
        let (sign, rest) := match rest with
          | '+' :: rest => (['+'], rest)
          | '-' :: rest => (['-'], rest)
          | _ => ([], rest)
        (digitsAt? rest).map fun (digits, behind) => (letter :: sign ++ digits, behind)
      else some ([], letter :: rest)
  | [] => some ([], [])

/-- The numeral at the start of a text, and what follows it. -/
def numeralAt? (text : List Char) : Option (List Char × List Char) := do
  let (whole, behind) ← digitsAt? text
  let (fraction, behind) ← match behind with
    | '.' :: rest => (digitsAt? rest).map fun (digits, behind) => ('.' :: digits, behind)
    | _ => some ([], behind)
  let (exponent, behind) ← exponentAt? behind
  return (whole ++ fraction ++ exponent, behind)

/-- The character of four hexadecimal digits at the start of a text, and what follows it. -/
def codePointAt? (text : List Char) : Option (Char × List Char) := do
  let unit ← JsonString.hexUnit? (text.take 4)
  if JsonString.isHighUnit unit || JsonString.isLowUnit unit then none
  else return (Char.ofNat unit, text.drop 4)

/-- The closing bracket of an opening one. -/
def closer? : Char → Option Char
  | '(' => some ')'
  | '[' => some ']'
  | '{' => some '}'
  | _ => none

/-- What is open at a place of a text, innermost first: the bracket that closes it, or none for a
filter inside a string. -/
abbrev Open : Type := List (Option Char)

/-- Whether a character is read as part of a string. -/
inductive Mode
  | code
  | text (read : List Char)

/-- The text read so far as a token in front of others; an empty text is none. -/
def flush (read : List Char) (tokens : List Token) : List Token :=
  if read.isEmpty then tokens else quoted (String.ofList read.reverse) :: tokens

/-- What one step of scanning leads to. -/
structure Scan where
  mode : Mode
  isOpen : Open
  rest : List Char
  /-- The tokens so far, the last one first. -/
  tokens : List Token

/-- Scans one character or escape of a string. -/
def scanText (read : List Char) (scan : Scan) : Option Scan :=
  match scan.rest with
  | [] => none
  | '"' :: rest =>
      some { scan with mode := .code, rest, tokens := quoteClosing :: flush read scan.tokens }
  | '\\' :: '(' :: rest =>
      some { scan with
        mode := .code, rest, isOpen := none :: scan.isOpen
        tokens := filterOpening :: flush read scan.tokens }
  | '\\' :: 'u' :: rest =>
      (codePointAt? rest).map fun (character, rest) =>
        { scan with mode := .text (character :: read), rest }
  | '\\' :: letter :: rest =>
      (JsonString.escapedChar? letter).map fun character =>
        { scan with mode := .text (character :: read), rest }
  | ['\\'] => none
  | character :: rest => some { scan with mode := .text (character :: read), rest }

/-- Scans a closing bracket, which must be that of the innermost opening one. -/
def scanClosing (bracket : Char) (rest : List Char) (scan : Scan) : Option Scan :=
  match scan.isOpen with
  | some expected :: outer =>
      if bracket = expected then
        some { scan with isOpen := outer, rest, tokens := closing bracket :: scan.tokens }
      else none
  | none :: outer =>
      if bracket = ')' then
        some { scan with
          mode := .text [], isOpen := outer, rest, tokens := filterClosing :: scan.tokens }
      else none
  | [] => none

/-- Adds the token of a name, its first characters and what was read behind them. -/
def Scan.name (token : String → Token) (start : List Char) (read : List Char × List Char)
    (scan : Scan) : Scan :=
  { scan with rest := read.2, tokens := token (String.ofList (start ++ read.1)) :: scan.tokens }

/-- Scans one token outside strings. -/
def scanCode (scan : Scan) : Option Scan :=
  match scan.rest with
  | [] => none
  | '"' :: rest => some { scan with mode := .text [], rest, tokens := quoteOpening :: scan.tokens }
  | '#' :: rest => some { scan with rest := behindComment false rest }
  | first :: rest =>
      if Text.isBlank first then some { scan with rest }
      else if startsName first then some (scan.name word [first] (wordAt rest))
      else if first.isDigit then
        (numeralAt? (first :: rest)).map fun (digits, rest) =>
          { scan with rest, tokens := numeral (String.ofList digits) :: scan.tokens }
      else if let some closer := closer? first then
        some { scan with
          isOpen := some closer :: scan.isOpen, rest, tokens := opening first :: scan.tokens }
      else if first = ')' ∨ first = ']' ∨ first = '}' then scanClosing first rest scan
      else
        match first, rest with
        | '$', next :: rest =>
            if startsName next then some (scan.name reference [next] (nameAt rest)) else none
        | '@', next :: rest =>
            if startsName next then some (scan.name format ['@', next] (nameAt rest)) else none
        | '.', next :: more =>
            if startsName next then some (scan.name field [next] (nameAt more))
            else
              (signAt? (first :: rest)).map fun (sign, rest) =>
                { scan with rest, tokens := symbol sign :: scan.tokens }
        | _, _ =>
            (signAt? (first :: rest)).map fun (sign, rest) =>
              { scan with rest, tokens := symbol sign :: scan.tokens }

/-- Scans a text to its end; every step takes a character, so the text's length is enough fuel. -/
def scanAll : (fuel : Nat) → Scan → Option (List Token)
  | 0, _ => none
  | fuel + 1, scan =>
      match scan.mode, scan.rest with
      | .code, [] => if scan.isOpen.isEmpty then some scan.tokens.reverse else none
      | .code, _ => (scanCode scan).bind (scanAll fuel)
      | .text read, _ => (scanText read scan).bind (scanAll fuel)

/-- The tokens of a text. -/
def scan (text : String) : Option (List Token) :=
  scanAll (text.length + 1) ⟨.code, [], text.toList, []⟩

end Token

end ModelScribe.Filter

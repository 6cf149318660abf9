import ModelScribe.Json.Printer

/-! # Values of filters

Filters compute with JSON values whose numbers are integers of 64 bits, floating-point numbers, or
numerals kept as they were written until something is computed with them.

* `Filter.Value`: a value.
* `Filter.Value.ofJson`, `Filter.Value.text`: the way in and the way out.
* `Filter.Value.compare`: the order of all values.
-/

namespace ModelScribe.Filter

/-- A value of a filter. -/
inductive Value
  | null
  | bool (value : Bool)
  | integer (value : Int)
  | float (value : Float)
  /-- A number as it is written. -/
  | numeral (digits : String)
  | string (value : String)
  | array (items : List Value)
  | object (members : List (String × Value))

namespace Value

instance : Inhabited Value := ⟨null⟩

/-- The integers that are computed with exactly. -/
def isSmall (value : Int) : Bool := -0x8000000000000000 ≤ value && value ≤ 0x7FFFFFFFFFFFFFFF

/-- The value of a JSON number. -/
def ofNumber : JsonNumber → Value
  | .integer value =>
      if isSmall value then integer value
      else numeral (String.ofList (JsonNumber.printInteger value))
  | .float value => numeral (String.ofList (JsonNumber.print (.float value)))

mutual

/-- The value of a JSON value. -/
def ofJson : Json → Value
  | .null => null
  | .bool value => bool value
  | .number value => ofNumber value
  | .string value => string value
  | .array items => array (ofItems items)
  | .object members => object (ofMembers members)

/-- The values of JSON values. -/
def ofItems : List Json → List Value
  | [] => []
  | item :: items => ofJson item :: ofItems items

/-- The members of a JSON object as values. -/
def ofMembers : List (String × Json) → List (String × Value)
  | [] => []
  | (key, value) :: members => (key, ofJson value) :: ofMembers members

end

/-- The layout of floating-point numbers. -/
def floatStyle : Decimal.Style := ⟨-4, 15, false, 1⟩

/-- The text of a floating-point number; one that is not finite is written `null`. -/
def floatText (value : Float) : List Char :=
  if value.isFinite then Decimal.render floatStyle value else ['n', 'u', 'l', 'l']

/-- How one character of a string is written: three control characters more than in documents as
their numbers. -/
def written (character : Char) : List Char :=
  if character = '\x08' ∨ character = '\x0c' ∨ character = '\x7f' then
    JsonString.numbered character
  else JsonString.written character

/-- A string between its quotes. -/
def quotedText (text : String) : List Char := '"' :: text.toList.flatMap written ++ ['"']

mutual

/-- The JSON text of a value. -/
def characters : Value → List Char
  | null => ['n', 'u', 'l', 'l']
  | bool true => ['t', 'r', 'u', 'e']
  | bool false => ['f', 'a', 'l', 's', 'e']
  | integer value => JsonNumber.printInteger value
  | float value => floatText value
  | numeral digits => digits.toList
  | string value => quotedText value
  | array items => '[' :: itemCharacters items ++ [']']
  | object members => '{' :: memberCharacters members ++ ['}']

/-- The texts of the items of a list, commas between them. -/
def itemCharacters : List Value → List Char
  | [] => []
  | [item] => characters item
  | item :: next :: items => characters item ++ ',' :: itemCharacters (next :: items)

/-- The texts of the members of an object, commas between them. -/
def memberCharacters : List (String × Value) → List Char
  | [] => []
  | [(key, value)] => quotedText key ++ ':' :: characters value
  | (key, value) :: next :: members =>
      quotedText key ++ ':' :: characters value ++ ',' :: memberCharacters (next :: members)

end

/-- The JSON text of a value. -/
def text (value : Value) : String := String.ofList value.characters

/-- A value as text: a string as it is, everything else as JSON. -/
def toText : Value → String
  | string text => text
  | value => value.text

/-- A value that counts as true: all but null and false. -/
def isTrue : Value → Bool
  | null | bool false => false
  | _ => true

/-- Gives a key a value: a key already there keeps its place, a new one goes to the end. -/
def insert (key : String) (value : Value) : List (String × Value) → List (String × Value)
  | [] => [(key, value)]
  | member :: members =>
      if member.1 = key then (key, value) :: members else member :: insert key value members

/-- The members with others added to them. -/
def insertAll (added members : List (String × Value)) : List (String × Value) :=
  added.foldl (fun members member => insert member.1 member.2 members) members

/-- The members in the order of their keys. -/
def sortMembers (members : List (String × Value)) : List (String × Value) :=
  members.mergeSort fun first second => decide (first.1 ≤ second.1)

end Value

/-- The number that decimal digits denote. -/
def decimal (digits : List Char) : Nat :=
  digits.foldl (fun value digit => value * 10 + (digit.toNat - '0'.toNat)) 0

/-- The floating-point number nearest to a significand times a power of ten; powers far out of range
are not computed. -/
def nearest (significand : Nat) (power : Int) : Float :=
  let size : Int := (Nat.toDigits 10 significand).length
  if significand = 0 then 0
  else if 400 < size + power then 1 / 0
  else if size + power < -400 then 0
  else Float.ofScientific significand (decide (power < 0)) power.natAbs

/-- The floating-point number that a numeral denotes. -/
def floatOfNumeral (numeral : List Char) : Float :=
  let (negative, numeral) := match numeral with
    | '-' :: rest => (true, rest)
    | _ => (false, numeral)
  let whole := numeral.takeWhile Char.isDigit
  let behind := numeral.dropWhile Char.isDigit
  let fraction := match behind with
    | '.' :: rest => rest.takeWhile Char.isDigit
    | _ => []
  let behind := match behind with
    | '.' :: rest => rest.dropWhile Char.isDigit
    | _ => behind
  let exponent : Int := match behind.drop 1 with
    | '-' :: digits => -(decimal digits : Int)
    | '+' :: digits => decimal digits
    | digits => decimal digits
  let value := nearest (decimal (whole ++ fraction)) (exponent - fraction.length)
  if negative then -value else value

/-- The floating-point number nearest to an integer. -/
def floatOfInt (value : Int) : Float :=
  let magnitude := nearest value.natAbs 0
  if value < 0 then -magnitude else magnitude

namespace Value

/-- The value of a numeral in a filter: an integer if it is one of 64 bits. -/
def ofNumeral (digits : String) : Value :=
  let characters := digits.toList
  if characters.all Char.isDigit ∧ isSmall (decimal characters) then integer (decimal characters)
  else numeral digits

/-- A numeral as something to compute with. -/
def evaluated : Value → Value
  | numeral digits => float (floatOfNumeral digits.toList)
  | other => other

/-- The place of a value's kind in the order of values. -/
def rank : Value → Nat
  | null => 0
  | bool false => 1
  | bool true => 2
  | integer _ | float _ | numeral _ => 3
  | string _ => 4
  | array _ => 5
  | object _ => 6

/-- The order of floating-point numbers: what is no number comes before everything. -/
def compareFloats (first second : Float) : Ordering :=
  if first.isNaN then .lt
  else if second.isNaN then .gt
  else if first < second then .lt
  else if second < first then .gt
  else .eq

/-- The order of two numbers. -/
def compareNumbers (first second : Value) : Ordering :=
  match first.evaluated, second.evaluated with
  | integer first, integer second => Ord.compare first second
  | integer first, float second => compareFloats (floatOfInt first) second
  | float first, integer second => compareFloats first (floatOfInt second)
  | float first, float second => compareFloats first second
  | _, _ => .eq

mutual

/-- The value with the members of each object in the order of their keys. -/
def sorted : Value → Value
  | array items => array (sortedItems items)
  | object members => object (sortMembers (sortedMembers members))
  | other => other

/-- The values with their members sorted. -/
def sortedItems : List Value → List Value
  | [] => []
  | item :: items => item.sorted :: sortedItems items

/-- The members with the members of their values sorted. -/
def sortedMembers : List (String × Value) → List (String × Value)
  | [] => []
  | (key, value) :: members => (key, value.sorted) :: sortedMembers members

end

/-- The order of two lists of keys. -/
def compareKeys : (first second : List (String × Value)) → Ordering
  | [], [] => .eq
  | [], _ => .lt
  | _, [] => .gt
  | (first, _) :: firsts, (second, _) :: seconds =>
      (Ord.compare first second).then (compareKeys firsts seconds)

mutual

/-- The order of two values whose members are sorted. -/
def compareSorted : (first second : Value) → Ordering
  | string first, string second => Ord.compare first second
  | array first, array second => compareItems first second
  | object first, object second => (compareKeys first second).then (compareMembers first second)
  | first, second =>
      if first.rank = 3 ∧ second.rank = 3 then compareNumbers first second
      else Ord.compare first.rank second.rank

/-- The order of two lists, item by item. -/
def compareItems : (first second : List Value) → Ordering
  | [], [] => .eq
  | [], _ => .lt
  | _, [] => .gt
  | first :: firsts, second :: seconds =>
      (compareSorted first second).then (compareItems firsts seconds)

/-- The order of the values of two lists of members. -/
def compareMembers : (first second : List (String × Value)) → Ordering
  | [], [] => .eq
  | [], _ => .lt
  | _, [] => .gt
  | (_, first) :: firsts, (_, second) :: seconds =>
      (compareSorted first second).then (compareMembers firsts seconds)

end

/-- The order of all values: nulls, false, true, numbers, strings, lists, objects. Objects are
ordered by their sorted keys first. -/
def compare (first second : Value) : Ordering := compareSorted first.sorted second.sorted

/-- Whether two values are the same in the order of values. -/
def same (first second : Value) : Bool := first.compare second = .eq

/-- Whether a value comes before another or is the same. -/
def atMost (first second : Value) : Bool := first.compare second ≠ .gt

/-- The values in order. -/
def sort (values : List Value) : List Value := values.mergeSort atMost

/-- The values without those that are the same as the one before them. -/
def dropRepeated : List Value → List Value
  | [] => []
  | [value] => [value]
  | value :: next :: values =>
      if same value next then
        match dropRepeated (next :: values) with
        | [] => [value]
        | _ :: rest => value :: rest
      else value :: dropRepeated (next :: values)

end Value

end ModelScribe.Filter

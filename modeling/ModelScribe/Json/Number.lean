import ModelScribe.Json.Basic
import ModelScribe.Json.Cursor

/-! # Reading JSON numbers

An integer that fits in 64 bits stays an integer. Every other number is its significand, as far as
64 bits hold its digits, times a power of ten, in floating point.
-/

namespace ModelScribe.JsonNumber

/-- The largest unsigned integer of 64 bits. -/
def greatest : Nat := 0xFFFFFFFFFFFFFFFF

/-- The value of a decimal digit. -/
def digitValue (digit : Char) : Nat := digit.toNat - '0'.toNat

/-- The leading digits that fit in 64 bits after `significand`, and how many digits follow them. -/
def leading (significand : Nat) : (digits : List Char) → Nat × Nat
  | [] => (significand, 0)
  | digit :: rest =>
      let next := significand * 10 + digitValue digit
      if next ≤ greatest then leading next rest else (significand, rest.length + 1)

/-- The significand times a power of ten below zero: the power is divided out in steps that floating
point can hold. -/
def divided (value : Float) : (steps : Nat) → (power : Nat) → Float
  | 0, _ => 0
  | steps + 1, power =>
      if power ≤ 308 then value / Float.ofScientific 1 false power
      else if value == 0 then value
      else divided (value / Float.ofScientific 1 false 308) steps (power - 308)

/-- The significand times a power of ten, unless that is too large. -/
def scaled? (significand : Nat) (power : Int) : Option Float :=
  let value := significand.toUInt64.toFloat
  if power < 0 then some (divided value 8 power.natAbs)
  else if power.toNat ≤ 308 then
    let product := value * Float.ofScientific 1 false power.toNat
    if product.isInf then none else some product
  else if significand = 0 then some value
  else none

/-- The floating-point number with a sign, a significand and a power of ten. -/
def ofParts (negative : Bool) (significand : Nat) (power : Int) (cursor : Cursor) :
    Except JsonError (JsonNumber × Cursor) :=
  match scaled? significand power with
  | none => .error ⟨.numberOutOfRange, cursor.position⟩
  | some value => .ok (.float (if negative then -value else value), cursor)

/-- The largest exponent that is computed with. -/
def greatestExponent : Nat := 0x7FFFFFFF

/-- The value of an exponent's digits, or the rest of them where it grows too large. -/
def exponentValue (exponent : Nat) : (digits : List Char) → Nat ⊕ List Char
  | [] => .inl exponent
  | digit :: rest =>
      let next := exponent * 10 + digitValue digit
      if next ≤ greatestExponent then exponentValue next rest else .inr rest

/-- Reads the exponent behind its letter. -/
def readExponent (negative : Bool) (significand : Nat) (power : Int) (cursor : Cursor) :
    Except JsonError (JsonNumber × Cursor) :=
  let (down, cursor) := match cursor.rest with
    | '+' :: _ => (false, cursor.advance)
    | '-' :: _ => (true, cursor.advance)
    | _ => (false, cursor)
  match cursor.rest with
  | [] => .error ⟨.endInValue, cursor.position⟩
  | first :: _ =>
      if first.isDigit then
        let behind := cursor.skipDigits
        match exponentValue 0 cursor.digits with
        | .inl exponent =>
            ofParts negative significand (if down then power - exponent else power + exponent)
              behind
        | .inr rest =>
            if significand ≠ 0 ∧ ¬ down then
              .error ⟨.numberOutOfRange,
                ⟨behind.position.line, behind.position.column - rest.length⟩⟩
            else .ok (.float (if negative then -0.0 else 0.0), behind)
      else .error ⟨.invalidNumber, cursor.ahead⟩

/-- Reads the rest of a number whose point has been read. -/
def readFraction (negative : Bool) (significand : Nat) (power : Int) (cursor : Cursor) :
    Except JsonError (JsonNumber × Cursor) :=
  let digits := cursor.digits
  let behind := cursor.skipDigits
  if digits.isEmpty then
    cursor.complain (if cursor.rest.isEmpty then .endInValue else .invalidNumber)
  else
    let (significand, dropped) := leading significand digits
    let power := power - (digits.length - dropped : Nat)
    match behind.rest with
    | 'e' :: _ | 'E' :: _ => readExponent negative significand power behind.advance
    | _ => ofParts negative significand power behind

/-- The largest magnitude of a negative integer of 64 bits. -/
def greatestMagnitude : Nat := 0x8000000000000000

/-- An integer as it is held: negative zero and what is below 64 bits are floating-point. -/
def ofInteger (negative : Bool) (significand : Nat) : JsonNumber :=
  if negative then
    if 0 < significand ∧ significand ≤ greatestMagnitude then .integer (-(significand : Int))
    else .float (-significand.toUInt64.toFloat)
  else .integer significand

/-- Reads the rest of a number whose whole part has been read. -/
def readAfterWhole (negative : Bool) (significand dropped : Nat) (cursor : Cursor) :
    Except JsonError (JsonNumber × Cursor) :=
  match cursor.rest with
  | '.' :: _ => readFraction negative significand dropped cursor.advance
  | 'e' :: _ | 'E' :: _ => readExponent negative significand dropped cursor.advance
  | _ =>
      if dropped = 0 then .ok (ofInteger negative significand, cursor)
      else ofParts negative significand dropped cursor

/-- Reads a number behind its sign. -/
def read (negative : Bool) (cursor : Cursor) : Except JsonError (JsonNumber × Cursor) :=
  match cursor.rest with
  | [] => .error ⟨.endInValue, cursor.position⟩
  | '0' :: rest =>
      let behind := cursor.advance
      if (rest.head?.map Char.isDigit).getD false then behind.complain .invalidNumber
      else readAfterWhole negative 0 0 behind
  | first :: _ =>
      if first.isDigit then
        let (significand, dropped) := leading 0 cursor.digits
        readAfterWhole negative significand dropped cursor.skipDigits
      else cursor.complain .invalidNumber

end ModelScribe.JsonNumber

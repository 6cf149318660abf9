/-! # Shortest decimals

The decimal text of a binary floating-point number: the fewest digits that read back as the number,
and of those the nearest to it.

* `Decimal.shortest`: the digits and the power of ten, in exact arithmetic.
* `Decimal.Style`: which powers of ten are written positionally and how an exponent looks.
* `Decimal.render`: the text.
-/

namespace ModelScribe.Decimal

/-- A positive binary fraction `mantissa * 2 ^ exponent` with the size of the gap below it. -/
structure Binary where
  mantissa : Nat
  exponent : Int
  /-- The next number below is half as far away as the next one above. -/
  narrowBelow : Bool

/-- The magnitude of a finite number. -/
def Binary.ofBits (bits : UInt64) : Binary :=
  let field := (bits >>> 52).toNat % 2048
  let fraction := bits.toNat % Nat.pow 2 52
  if field = 0 then ⟨fraction, -1074, false⟩
  else ⟨fraction + Nat.pow 2 52, (field : Int) - 1075, fraction = 0 && field > 1⟩

/-- `value * 2 ^ two / 10 ^ ten` as a fraction of natural numbers. -/
def scaledFraction (value : Nat) (two ten : Int) : Nat × Nat :=
  (value * Nat.pow 2 two.toNat * Nat.pow 10 (-ten).toNat,
    Nat.pow 2 (-two).toNat * Nat.pow 10 ten.toNat)

/-- The multiple of `10 ^ power` nearest to the number among those that read back as it. -/
def onGrid? (number : Binary) (power : Int) : Option Nat :=
  let quarter := number.exponent - 2
  let (value, unit) := scaledFraction (4 * number.mantissa) quarter power
  let (low, _) := scaledFraction
    (4 * number.mantissa - (if number.narrowBelow then 1 else 2)) quarter power
  let (high, _) := scaledFraction (4 * number.mantissa + 2) quarter power
  let reads (digits : Nat) : Bool :=
    if number.mantissa % 2 = 0 then low ≤ digits * unit && digits * unit ≤ high
    else low < digits * unit && digits * unit < high
  let below := value / unit
  match reads below, reads (below + 1) with
  | true, true =>
      if value - below * unit ≤ (below + 1) * unit - value then some below else some (below + 1)
  | true, false => some below
  | false, true => some (below + 1)
  | false, false => none

/-- The coarsest grid with a point that reads back, from `power` downward. -/
def search (number : Binary) : (steps : Nat) → (power : Int) → Nat × Int
  | 0, power => ((onGrid? number power).getD 0, power)
  | steps + 1, power =>
      match onGrid? number power with
      | some digits => (digits, power)
      | none => search number steps (power - 1)

/-- The fewest digits that read back as the number, and the power of ten of the last one. -/
def shortest (number : Binary) : Nat × Int :=
  let magnitude := (number.exponent + (Nat.log2 number.mantissa : Int)) * 30103 / 100000
  search number 24 (magnitude + 2)

/-- How a decimal is laid out. -/
structure Style where
  /-- The smallest power of ten of the leading digit that is written without an exponent. -/
  leastPositional : Int
  /-- The largest such power. -/
  greatestPositional : Int
  /-- A positive exponent has a plus sign. -/
  plusSign : Bool
  /-- The least number of digits of an exponent. -/
  exponentDigits : Nat

/-- The layout of numbers in JSON texts. -/
def jsonStyle : Style := ⟨-4, 15, true, 2⟩

/-- The digits without trailing zeros, and the power of ten of the last one. -/
def stripZeros (digits : List Char) (power : Int) : List Char × Int :=
  let zeros := (digits.reverse.takeWhile (· == '0')).length
  (digits.take (digits.length - zeros), power + zeros)

/-- The digits with a point after the first `places` of them, zeros filled in at both ends. -/
def positional (digits : List Char) (places : Int) : List Char :=
  if places ≤ 0 then ['0', '.'] ++ List.replicate (-places).toNat '0' ++ digits
  else
    let whole := places.toNat
    if digits.length ≤ whole then
      digits ++ List.replicate (whole - digits.length) '0' ++ ['.', '0']
    else digits.take whole ++ '.' :: digits.drop whole

/-- The digits in scientific notation, the leading one at the power `leading`. -/
def scientific (style : Style) (digits : List Char) (leading : Int) : List Char :=
  let fraction := digits.drop 1
  let point := if fraction.isEmpty then [] else '.' :: fraction
  let sign := if leading < 0 then ['-'] else if style.plusSign then ['+'] else []
  let exponent := Nat.toDigits 10 leading.natAbs
  digits.take 1 ++ point ++ 'e' :: sign ++
    List.replicate (style.exponentDigits - exponent.length) '0' ++ exponent

/-- The text of a finite number. -/
def render (style : Style) (number : Float) : List Char :=
  let sign := if number.toBits >>> 63 = 1 then ['-'] else []
  let binary := Binary.ofBits number.toBits
  if binary.mantissa = 0 then sign ++ ['0', '.', '0']
  else
    let (value, power) := shortest binary
    let (digits, power) := stripZeros (Nat.toDigits 10 value) power
    let leading := power + digits.length - 1
    if style.leastPositional ≤ leading ∧ leading ≤ style.greatestPositional then
      sign ++ positional digits (leading + 1)
    else sign ++ scientific style digits leading

end ModelScribe.Decimal

import ModelScribe.Filter.Fault

/-! # Arithmetic on values

Integers stay integers while 64 bits hold them, except in a quotient. Strings and lists can be added
and taken apart, objects merged.

* `Filter.Arithmetic`: the operations and their signs.
* `Filter.Arithmetic.apply`: the result of an operation.
* `Filter.Value.negated`: the number below zero.
-/

namespace ModelScribe.Filter

/-- The operations on two values. -/
inductive Arithmetic
  | add
  | subtract
  | multiply
  | divide
  | remainder
  deriving DecidableEq

/-- The sign of an operation. -/
def Arithmetic.sign : Arithmetic → String
  | add => "+"
  | subtract => "-"
  | multiply => "*"
  | divide => "/"
  | remainder => "%"

/-- A finite number as an integer times a power of two. -/
def exactParts (value : Float) : Int × Int :=
  let binary := Decimal.Binary.ofBits value.toBits
  (if value < 0 then -(binary.mantissa : Int) else binary.mantissa, binary.exponent)

/-- The remainder of a division toward zero, which has the sign of the dividend. -/
def floatRemainder (dividend divisor : Float) : Float :=
  if ¬ dividend.isFinite ∨ divisor.isNaN ∨ divisor == 0 then 0 / 0
  else if ¬ divisor.isFinite ∨ dividend == 0 then dividend
  else
    let (first, firstPower) := exactParts dividend
    let (second, secondPower) := exactParts divisor
    let power := min firstPower secondPower
    let first := first * Nat.pow 2 (firstPower - power).toNat
    let second := second * Nat.pow 2 (secondPower - power).toNat
    let rest := first.tmod second
    let magnitude := Float.scaleB (Float.ofNat rest.natAbs) power
    if dividend < 0 then -magnitude else magnitude

/-- An integer, as a floating-point number where 64 bits do not hold it. -/
def Value.bounded (value : Int) (otherwise : Float) : Value :=
  if isSmall value then integer value else float otherwise

/-- The parts of a text between the places where another text stands. -/
def splitText (text separator : String) : List Value :=
  if text.isEmpty then []
  else if separator.isEmpty then text.toList.map (.string ∘ String.singleton)
  else (text.splitOn separator).map .string

mutual

/-- The members of an object merged with those of another, objects under one key again. -/
def mergeObjects : (added members : List (String × Value)) → List (String × Value)
  | [], members => members
  | (key, value) :: added, members =>
      mergeObjects added (Value.insert key (mergeInto value (members.lookup key)) members)

/-- The value of a key that two objects have. -/
def mergeInto : (value : Value) → (held : Option Value) → Value
  | .object added, some (.object members) => .object (mergeObjects added members)
  | value, _ => value

end

namespace Arithmetic

/-- The result for two integers. -/
def onIntegers (first second : Int) : Arithmetic → Option Value
  | add => some (.bounded (first + second) (floatOfInt first + floatOfInt second))
  | subtract => some (.bounded (first - second) (floatOfInt first - floatOfInt second))
  | multiply => some (.bounded (first * second) (floatOfInt first * floatOfInt second))
  | divide => some (.float (floatOfInt first / floatOfInt second))
  | remainder => if second = 0 then none else some (.integer (first.tmod second))

/-- The result for two floating-point numbers. -/
def onFloats (first second : Float) : Arithmetic → Value
  | add => .float (first + second)
  | subtract => .float (first - second)
  | multiply => .float (first * second)
  | divide => .float (first / second)
  | remainder => .float (floatRemainder first second)

/-- A text written so many times; not once is null. -/
def repeated (text : String) (times : Int) : Value :=
  if 0 < times then .string (String.join (List.replicate times.toNat text)) else .null

/-- The result of an operation, if there is one. -/
def result? (operation : Arithmetic) (first second : Value) : Option Value :=
  match operation, first.evaluated, second.evaluated with
  | operation, .integer first, .integer second => operation.onIntegers first second
  | operation, .integer first, .float second =>
      some (operation.onFloats (floatOfInt first) second)
  | operation, .float first, .integer second =>
      some (operation.onFloats first (floatOfInt second))
  | operation, .float first, .float second => some (operation.onFloats first second)
  | add, .null, _ => some second
  | add, _, .null => some first
  | add, .string first, .string second => some (.string (first ++ second))
  | add, .array first, .array second => some (.array (first ++ second))
  | add, .object first, .object second => some (.object (Value.insertAll second first))
  | subtract, .array first, .array second =>
      some (.array (first.filter fun item => !second.any (Value.same item)))
  | multiply, .string text, .integer times => some (repeated text times)
  | multiply, .integer times, .string text => some (repeated text times)
  | multiply, .object first, .object second => some (.object (mergeObjects second first))
  | divide, .string text, .string separator => some (.array (splitText text separator))
  | _, _, _ => none

/-- The result of an operation. -/
def apply (operation : Arithmetic) (first second : Value) : Outcome Value :=
  match operation.result? first second with
  | some result => .ok result
  | none => .error (.noResult first.evaluated operation.sign second.evaluated)

end Arithmetic

/-- The number below zero. -/
def Value.negated (value : Value) : Outcome Value :=
  match value.evaluated with
  | .integer number => .ok (.bounded (-number) (-floatOfInt number))
  | .float number => .ok (.float (-number))
  | _ => .error (.wrongKind value "number")

/-- The comparisons of two values. -/
inductive Comparison
  | equal
  | different
  | less
  | atMost
  | greater
  | atLeast
  deriving DecidableEq

/-- Whether a comparison holds. -/
def Comparison.holds (comparison : Comparison) (first second : Value) : Bool :=
  match comparison, first.compare second with
  | equal, order => order = .eq
  | different, order => order ≠ .eq
  | less, order => order = .lt
  | atMost, order => order ≠ .gt
  | greater, order => order = .gt
  | atLeast, order => order ≠ .lt

end ModelScribe.Filter

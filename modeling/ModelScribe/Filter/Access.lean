import ModelScribe.Filter.Fault
import ModelScribe.Filter.Flow

/-! # Parts of values

* `Filter.Value.part`, `Filter.Value.slice`, `Filter.Value.parts`: reading the parts of a value.
* `Filter.Stride`: a step into a value, its keys worked out.
* `Filter.Stride.reach`, `Filter.Stride.change`: what a step leads to, and the value with that
  changed.
-/

namespace ModelScribe.Filter

/-- The words for what can be iterated over. -/
def iterable : String := "iterable (array or object)"

/-- The words for what can be cut. -/
def sliceable : String := "rangeable (array or string)"

/-- The place of an index in a list; a negative one counts from the end. -/
def place? (index : Int) (length : Nat) : Option Nat :=
  if 0 ≤ index then if index < length then some index.toNat else none
  else if 0 ≤ length + index then some (length + index).toNat else none

/-- The place of a bound in a list, at most its length. -/
def boundPlace (bound : Int) (length : Nat) : Nat :=
  min (if 0 ≤ bound then bound.toNat else (length + bound).toNat) length

namespace Value

/-- A value as an integer. -/
def asInteger : Value → Outcome Int
  | integer value => .ok value
  | value => .error (.wrongKind value "integer")

/-- The place of a bound, or another one where there is none. -/
def bound (length otherwise : Nat) : Option Value → Outcome Nat
  | none => .ok otherwise
  | some value => value.asInteger.map fun bound => boundPlace bound length

/-- The places where a slice starts and ends. -/
def bounds (length : Nat) (lower upper : Option Value) : Outcome (Nat × Nat) := do
  let lower ← bound length 0 lower
  let upper ← bound length length upper
  return (lower, max lower upper)

/-- The items or characters of a value between two bounds. -/
def slice (value : Value) (lower upper : Option Value) : Outcome Value :=
  match value with
  | array items => do
      let (lower, upper) ← bounds items.length lower upper
      return array ((items.take upper).drop lower)
  | string text => do
      let (lower, upper) ← bounds text.length lower upper
      return string (String.ofList ((text.toList.take upper).drop lower))
  | value => .error (.wrongKind value sliceable)

/-- What a value has under a key or at an index; what is not there is null. An object with a start
and an end is the key of a slice. -/
def part (value key : Value) : Outcome Value :=
  match value, key with
  | array items, integer index =>
      .ok (((place? index items.length).bind fun place => items[place]?).getD null)
  | array _, object bounds | string _, object bounds =>
      value.slice (bounds.lookup "start") (bounds.lookup "end")
  | object members, string key => .ok ((members.lookup key).getD null)
  | array _, _ | object _, _ => .error (.noPart value key)
  | _, _ => .error (.wrongKind value iterable)

/-- All parts of a list or object, each with its index or key. -/
def parts : Value → Outcome (List (Value × Value))
  | array items =>
      .ok (items.zipIdx.map fun (item, index) => (integer (index : Nat), item))
  | object members => .ok (members.map fun (key, value) => (string key, value))
  | value => .error (.wrongKind value iterable)

/-- The key of a slice, with the bounds that it has. -/
def sliceKey (lower upper : Option Value) : Value :=
  object ((lower.map fun bound => ("start", bound)).toList ++
    (upper.map fun bound => ("end", bound)).toList)

end Value

/-- The first output of a flow, if there is one. -/
def firstOutput {α : Type} : Flow (Outcome α) → Outcome (Option α)
  | .done => .ok none
  | .item result _ => result.map some

/-- A step into a value, its keys worked out. -/
inductive Stride
  | each
  | part (key : Value)
  | slice (lower upper : Option Value)

namespace Stride

/-- What a step leads to, each with its key. -/
def reach (stride : Stride) (value : Value) : Outcome (List (Value × Value)) :=
  match stride with
  | each => value.parts
  | part key => (value.part key).map fun found => [(key, found)]
  | slice lower upper =>
      (value.slice lower upper).map fun found => [(Value.sliceKey lower upper, found)]

/-- The value unchanged where a step is optional, a fault otherwise. -/
def refuse (optional : Bool) (value : Value) (fault : Fault) : Outcome Value :=
  if optional then .ok value else .error fault

/-- The members with the value of each changed; one without a new value is left out. -/
def changeMembers (change : Value → Flow (Outcome Value)) :
    List (String × Value) → Outcome (List (String × Value))
  | [] => .ok []
  | (key, value) :: members => do
      match ← firstOutput (change value) with
      | some value => return (key, value) :: (← changeMembers change members)
      | none => changeMembers change members

/-- The members without a key; the last one takes the place of the one taken out. -/
def takeOut (key : String) (members : List (String × Value)) : List (String × Value) :=
  match members.getLast? with
  | none => []
  | some last =>
      if last.1 = key then members.dropLast
      else members.dropLast.map fun member => if member.1 = key then last else member

/-- The object with the value of a key changed, or the key taken out. -/
def changeMember (change : Value → Flow (Outcome Value)) (key : String)
    (members : List (String × Value)) : Outcome Value := do
  match members.lookup key, ← firstOutput (change ((members.lookup key).getD .null)) with
  | _, some value => return .object (Value.insert key value members)
  | some _, none => return .object (takeOut key members)
  | none, none => return .object members

/-- The list with the item at an index changed, or taken out. -/
def changeItem (optional : Bool) (change : Value → Flow (Outcome Value)) (key : Value)
    (items : List Value) : Outcome Value := do
  match key.asInteger with
  | .error fault => refuse optional (.array items) fault
  | .ok index =>
      match (place? index items.length).bind fun place => (items[place]?).map (place, ·) with
      | none =>
          refuse optional (.array items)
            (.message ("index " ++ toString index ++ " out of bounds"))
      | some (place, item) =>
          match ← firstOutput (change item) with
          | some item => return .array (items.set place item)
          | none => return .array (items.eraseIdx place)

/-- The list with a slice of it changed. -/
def changeSlice (optional : Bool) (change : Value → Flow (Outcome Value))
    (lower upper : Option Value) (items : List Value) : Outcome Value := do
  match Value.bounds items.length lower upper with
  | .error fault => refuse optional (.array items) fault
  | .ok (lower, upper) =>
      let middle ← match ← firstOutput (change (.array ((items.take upper).drop lower))) with
        | none => pure []
        | some (.array middle) => pure middle
        | some other => .error (.wrongKind other "array")
      return .array (items.take lower ++ middle ++ items.drop upper)

/-- The value with what a step leads to changed. -/
def change (stride : Stride) (optional : Bool) (change : Value → Flow (Outcome Value))
    (value : Value) : Outcome Value :=
  match stride, value with
  | each, .array items => do
      return .array (← (Flow.bind (Flow.ofList items) change).collect)
  | each, .object members => do return .object (← changeMembers change members)
  | part (.string key), .object members => changeMember change key members
  | part key, .object members => refuse optional value (.noPart (.object members) key)
  | part (.object bounds), .array items =>
      changeSlice optional change (bounds.lookup "start") (bounds.lookup "end") items
  | part (.object _), .string _ => refuse optional value (.wrongKind value "array")
  | part key, .array items => changeItem optional change key items
  | slice lower upper, .array items => changeSlice optional change lower upper items
  | slice _ _, value => refuse optional value (.wrongKind value "array")
  | _, value => refuse optional value (.wrongKind value iterable)

/-- The value with what a path leads to changed. -/
def changeAlong (last : Value → Flow (Outcome Value)) :
    List (Stride × Bool) → Value → Outcome Value
  | [], value => .ok value
  | [(stride, optional)], value => stride.change optional last value
  | (stride, optional) :: next :: rest, value =>
      stride.change optional (fun inner => .single (changeAlong last (next :: rest) inner)) value

end Stride

end ModelScribe.Filter

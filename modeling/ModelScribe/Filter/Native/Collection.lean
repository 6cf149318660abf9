import ModelScribe.Filter.Access
import ModelScribe.Filter.Arithmetic

/-! # Filters on lists and objects

What the named filters do that look at a list or object as a whole.
-/

namespace ModelScribe.Filter.Value

/-- The name of a value's kind. -/
def kind : Value → String
  | null => "null"
  | bool _ => "boolean"
  | integer _ | float _ | numeral _ => "number"
  | string _ => "string"
  | array _ => "array"
  | object _ => "object"

/-- The items of a list. -/
def items : Value → Outcome (List Value)
  | array items => .ok items
  | value => .error (.wrongKind value "array")

/-- The text of a string. -/
def stringOf : Value → Outcome String
  | string text => .ok text
  | value => .error (.wrongKind value "string")

/-- The length of a value; that of a number is how far it is from zero. -/
def length (value : Value) : Outcome Value :=
  match value.evaluated with
  | null => .ok (integer 0)
  | integer number => .ok (.bounded (number.natAbs : Nat) (floatOfInt number).abs)
  | float number => .ok (float number.abs)
  | string text => .ok (integer (text.length : Nat))
  | array items => .ok (integer (items.length : Nat))
  | object members => .ok (integer (members.length : Nat))
  | value => .error (.message (value.text ++ " has no length"))

/-- The indices of a list in order, or the keys of an object as it holds them. -/
def keysAsHeld (value : Value) : Outcome Value := do
  return array ((← value.parts).map Prod.fst)

/-- The indices of a list or the keys of an object, in order. -/
def keys (value : Value) : Outcome Value := do
  return array (sort ((← value.parts).map Prod.fst))

/-- Whether a list has an index, counted from its start, or an object a key. -/
def has (value key : Value) : Outcome Value :=
  match value, key with
  | array items, integer index =>
      if 0 ≤ index then .ok (bool (index < items.length)) else .error (.noPart value key)
  | object members, string key => .ok (bool (members.lookup key).isSome)
  | value, key => .error (.noPart value key)

/-- A list with fewer and fewer of its first items, down to none. -/
def endings {α : Type} : List α → List (List α)
  | [] => [[]]
  | item :: items => (item :: items) :: endings items

/-- Whether a text has another one somewhere in it. -/
def textContains (text inner : List Char) : Bool :=
  (endings text).any fun rest => inner.isPrefixOf rest

mutual

/-- Whether a value contains another: a string a part of it, a list something that contains each
item, an object something under each key that contains its value. -/
def contains : (inner value : Value) → Bool
  | string inner, string text => textContains text.toList inner.toList
  | array inner, array items => containsItems inner items
  | object inner, object members => containsMembers inner members
  | inner, value => same inner value

/-- Whether each value is contained in some item. -/
def containsItems : (inner items : List Value) → Bool
  | [], _ => true
  | value :: inner, items => items.any (contains value) && containsItems inner items

/-- Whether each member's value is contained in what an object has under its key. -/
def containsMembers : (inner members : List (String × Value)) → Bool
  | [], _ => true
  | (key, value) :: inner, members =>
      ((members.lookup key).map (contains value)).getD false && containsMembers inner members

end

/-- The list in order. -/
def sortList (value : Value) : Outcome Value := do
  return array (sort (← value.items))

/-- The list in order, each value once. -/
def uniqueList (value : Value) : Outcome Value := do
  return array (dropRepeated (sort (← value.items)))

/-- A list from its end to its start. -/
def reversed (value : Value) : Outcome Value := do
  return array (← value.items).reverse

/-- The first of the smallest items of a list paired with their keys, or the last of the
greatest. -/
def extreme (greatest : Bool) : List (Value × Value) → Option (Value × Value)
  | [] => none
  | first :: others =>
      some (others.foldl
        (fun best pair =>
          let order := pair.1.compare best.1
          if greatest then if order = .lt then best else pair
          else if order = .lt then pair else best)
        first)

/-- The smallest or greatest of items paired with their keys, or null. -/
def extremeBy (greatest : Bool) (pairs : List (Value × Value)) : Value :=
  ((extreme greatest pairs).map Prod.snd).getD null

/-- The smallest or greatest item of a list, or null. -/
def extremeOf (greatest : Bool) (value : Value) : Outcome Value := do
  let items ← value.items
  return extremeBy greatest (items.zip items)

/-- Pairs in the order of their keys; equal keys stay as they are. -/
def sortPairs (pairs : List (Value × Value)) : List (Value × Value) :=
  pairs.mergeSort fun first second => atMost first.1 second.1

/-- The list of items paired with their keys, in the order of these. -/
def sortBy (pairs : List (Value × Value)) : Value :=
  array ((sortPairs pairs).map Prod.snd)

/-- Pairs in runs of equal keys. -/
def groups : List (Value × Value) → List (Value × List Value)
  | [] => []
  | (key, value) :: pairs =>
      match groups pairs with
      | [] => [(key, [value])]
      | (other, values) :: more =>
          if same key other then (key, value :: values) :: more
          else (key, [value]) :: (other, values) :: more

/-- The list of items paired with their keys, in groups of equal keys, in the order of these. -/
def groupBy (pairs : List (Value × Value)) : Value :=
  array ((groups (sortPairs pairs)).map fun group => array group.2)

mutual

/-- The items of a list with the lists in it opened so many levels deep. -/
def flattened : (depth : Nat) → Value → List Value
  | depth, array items => flattenedItems depth items
  | _, value => [value]

/-- The values with the lists among them opened. -/
def flattenedItems : (depth : Nat) → List Value → List Value
  | _, [] => []
  | 0, items => items
  | depth + 1, item :: items => flattened depth item ++ flattenedItems (depth + 1) items

end

/-- A list with the lists in it opened so many levels deep. -/
def flatten (value depth : Value) : Outcome Value := do
  let depth ← depth.asInteger
  if depth < 0 then .error (.message "flatten depth must not be negative")
  else
    match value with
    | array items => return array (flattenedItems depth.toNat items)
    | object members => return array (flattenedItems depth.toNat (members.map Prod.snd))
    | value => .error (.wrongKind value iterable)

/-- The places where a list has another one in it. -/
def listPlaces (items inner : List Value) : List Nat :=
  ((endings items).zipIdx.filter fun (rest, _) =>
    inner.length ≤ rest.length && (inner.zip rest).all fun (first, second) => same first second).map
      Prod.snd

/-- The numbers from one value to another in steps, worked out one at a time. -/
def range (goesOn : Value → Bool) (step : Value) : (fuel : Nat) → Value → Flow (Outcome Value)
  | 0, _ => .done
  | fuel + 1, value =>
      if goesOn value then
        .item (.ok value) fun _ =>
          match Arithmetic.apply .add value step with
          | .ok next => range goesOn step fuel next
          | .error fault => .single (.error fault)
      else .done

/-- The most numbers that are counted. -/
def longestRange : Nat := 0x4000000000000000

/-- The numbers from one value up or down to another, which is not among them. -/
def rangeBetween (start finish step : Value) : Flow (Outcome Value) :=
  let goesOn (value : Value) : Bool :=
    match step.compare (integer 0) with
    | .gt => value.compare finish = .lt
    | .lt => value.compare finish = .gt
    | .eq => value.compare finish ≠ .eq
  range goesOn step longestRange start

end ModelScribe.Filter.Value

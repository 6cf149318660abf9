import ModelScribe.Filter.Native.Text

/-! # Named filters that are not defined by others

* `Filter.Native`: the ways in which such a filter works on its input and arguments.
* `Filter.natives`: all of them, by name and number of arguments.
-/

namespace ModelScribe.Filter

/-- How a named filter works. -/
inductive Native
  /-- It raises its input as an error. -/
  | raise
  /-- It makes one output of the input. -/
  | onInput (run : Value → Outcome Value)
  /-- It makes outputs of the input and the values of its arguments. -/
  | onValues (run : Value → List Value → Flow (Outcome Value))
  /-- The paths of its argument's outputs. -/
  | paths
  /-- The first output of its argument. -/
  | first
  /-- The last output of its argument. -/
  | last
  /-- The first so many outputs of its second argument. -/
  | take
  /-- The outputs of its second argument behind the first so many. -/
  | drop
  /-- Whether its argument has no output. -/
  | isEmpty
  /-- It arranges the items of the input, each paired with the outputs of its argument; of fewer
  items than `fewest` no outputs are asked. -/
  | byKeys (fewest : Nat) (arrange : List (Value × Value) → Value)

namespace Native

/-- Whether the outputs of a named filter are made by it and are no parts of its input. -/
def makes : Native → Bool
  | raise | first | last | take | drop => false
  | _ => true

/-- A filter that is always the same value. -/
def constant (value : Value) : Native := onInput fun _ => .ok value

/-- A filter that makes one output of the input and one argument. -/
def withOne (run : Value → Value → Outcome Value) : Native :=
  onValues fun value arguments =>
    match arguments with
    | [argument] => .single (run value argument)
    | _ => .done

/-- A number as a floating-point number. -/
def asFloat (value : Value) : Outcome Float :=
  match value.evaluated with
  | .integer number => .ok (floatOfInt number)
  | .float number => .ok number
  | _ => .error (.wrongKind value "floating-point number")

/-- A filter on floating-point numbers. -/
def onFloat (run : Float → Float) : Native :=
  onInput fun value => (asFloat value).map fun number => .float (run number)

/-- A whole number as an integer, if 64 bits hold it. -/
def wholeNumber (number : Float) : Value :=
  if number.isFinite ∧ number.abs < 9223372036854775808.0 then .integer number.toInt64.toInt
  else .float number

/-- A filter that rounds numbers; integers stay as they are. -/
def rounding (run : Float → Float) : Native :=
  onInput fun value =>
    match value.evaluated with
    | .integer number => .ok (.integer number)
    | value => (asFloat value).map fun number => wholeNumber (run number)

end Native

/-- The filters on numbers. -/
def numberNatives : List (String × Nat × Native) :=
  [("nan", 0, .constant (.float (0 / 0))),
    ("infinite", 0, .constant (.float (1 / 0))),
    ("floor", 0, .rounding Float.floor),
    ("ceil", 0, .rounding Float.ceil),
    ("round", 0, .rounding Float.round),
    ("fabs", 0, .onFloat Float.abs),
    ("sqrt", 0, .onFloat Float.sqrt),
    ("exp", 0, .onFloat Float.exp),
    ("exp2", 0, .onFloat Float.exp2),
    ("log", 0, .onFloat Float.log),
    ("log2", 0, .onFloat Float.log2),
    ("log10", 0, .onFloat Float.log10),
    ("sin", 0, .onFloat Float.sin),
    ("cos", 0, .onFloat Float.cos),
    ("tan", 0, .onFloat Float.tan),
    ("pow", 2, .onValues fun _ arguments =>
      match arguments with
      | [base, power] => .single do
          return .float (Float.pow (← Native.asFloat base) (← Native.asFloat power))
      | _ => .done),
    ("range", 3, .onValues fun _ arguments =>
      match arguments with
      | [start, finish, step] => Value.rangeBetween start finish step
      | _ => .done)]

/-- The filters on lists and objects. -/
def collectionNatives : List (String × Nat × Native) :=
  [("length", 0, .onInput Value.length),
    ("keys", 0, .onInput Value.keys),
    ("keys_unsorted", 0, .onInput Value.keysAsHeld),
    ("has", 1, .withOne Value.has),
    ("contains", 1, .withOne fun value inner => .ok (.bool (Value.contains inner value))),
    ("sort", 0, .onInput Value.sortList),
    ("unique", 0, .onInput Value.uniqueList),
    ("reverse", 0, .onInput Value.reversed),
    ("min", 0, .onInput (Value.extremeOf false)),
    ("max", 0, .onInput (Value.extremeOf true)),
    ("min_by", 1, .byKeys 1 (Value.extremeBy false)),
    ("max_by", 1, .byKeys 1 (Value.extremeBy true)),
    ("sort_by", 1, .byKeys 2 Value.sortBy),
    ("group_by", 1, .byKeys 1 Value.groupBy),
    ("flatten", 1, .withOne Value.flatten)]

/-- The filters on texts. -/
def textNatives : List (String × Nat × Native) :=
  [("tostring", 0, .onInput Value.toStringValue),
    ("tojson", 0, .onInput fun value => .ok (.string value.text)),
    ("fromjson", 0, .onInput Value.fromText),
    ("tonumber", 0, .onInput Value.toNumber),
    ("ascii_downcase", 0, .onInput (Value.mapText (·.map Value.lower))),
    ("ascii_upcase", 0, .onInput (Value.mapText (·.map Value.upper))),
    ("trim", 0, .onInput (Value.mapText Text.trim)),
    ("ltrim", 0, .onInput (Value.mapText Text.trimStart)),
    ("rtrim", 0, .onInput (Value.mapText Text.trimEnd)),
    ("utf8bytelength", 0, .onInput Value.byteLength),
    ("explode", 0, .onInput Value.codePoints),
    ("implode", 0, .onInput Value.ofCodePoints),
    ("startswith", 1, .withOne Value.startsWith),
    ("endswith", 1, .withOne Value.endsWith),
    ("ltrimstr", 1, .withOne Value.withoutStart),
    ("rtrimstr", 1, .withOne Value.withoutEnd),
    ("split", 1, .withOne Value.splitAt),
    ("indices", 1, .withOne Value.indices),
    ("index", 1, .withOne Value.firstPlace),
    ("rindex", 1, .withOne Value.lastPlace),
    ("@text", 0, .onInput Value.toStringValue),
    ("@json", 0, .onInput fun value => .ok (.string value.text)),
    ("@html", 0, .onInput (Value.respell Value.markupChar)),
    ("@uri", 0, .onInput (Value.respell Value.addressChar)),
    ("@csv", 0, .onInput (Value.row Value.commaCell ",")),
    ("@tsv", 0, .onInput (Value.row Value.tabCell "\t")),
    ("@sh", 0, .onInput Value.command),
    ("@base64", 0, .onInput Value.toSixBits),
    ("@base64d", 0, .onInput Value.fromSixBits)]

/-- The filters that are not defined by others. -/
def natives : List (String × Nat × Native) :=
  [("null", 0, .constant .null),
    ("true", 0, .constant (.bool true)),
    ("false", 0, .constant (.bool false)),
    ("type", 0, .onInput fun value => .ok (.string value.kind)),
    ("error", 0, .raise),
    ("input", 0, .onValues fun _ _ => .done),
    ("inputs", 0, .onValues fun _ _ => .done),
    ("path", 1, .paths),
    ("first", 1, .first),
    ("last", 1, .last),
    ("limit", 2, .take),
    ("skip", 2, .drop),
    ("isempty", 1, .isEmpty)] ++ numberNatives ++ collectionNatives ++ textNatives

/-- The filter of a name and number of arguments. -/
def native? (name : String) (arity : Nat) : Option Native :=
  (natives.find? fun entry => entry.1 = name ∧ entry.2.1 = arity).map fun entry => entry.2.2

end ModelScribe.Filter

import ModelScribe.CommandLine.Options

/-! # Reading a command line

Arguments are read from left to right. An option's value is looked at only when the next option
comes or the line ends, and the first thing that is wrong ends the reading.

* `Reading`: what has been read so far.
* `Options.ofArguments`: the options of a whole command line.
-/

namespace ModelScribe

/-- A command line read so far. -/
structure Reading where
  options : Options := {}
  /-- The options that have been settled. -/
  given : List Argument := []
  /-- The last option, its value not looked at yet, or still to come. -/
  pending : Option (ValueOption × Option String) := none
  /-- Two dashes have come, and behind them nothing is an option. -/
  optionsOver : Bool := false

namespace Reading

/-- Notes that an option is given; none may be given twice. -/
def note (argument : Argument) (reading : Reading) : Except UsageStop Reading :=
  if argument ∈ reading.given then .error .repeatedArgument
  else .ok { reading with given := argument :: reading.given }

/-- Looks at the value of the last option. -/
def settle (reading : Reading) : Except UsageStop Reading := do
  match reading.pending with
  | none => return reading
  | some (_, none) => throw .invalidValue
  | some (option, some value) =>
      let reading ← reading.note (.value option)
      return { reading with options := ← reading.options.set option value, pending := none }

/-- Takes an option with the value that stands with it, if one does. -/
def take (option : ValueOption) (value : Option String) (reading : Reading) :
    Except UsageStop Reading := do
  let reading ← reading.settle
  return { reading with pending := some (option, value) }

/-- Takes a switch, or a question for help or the version. -/
def takeSwitch (argument : Argument) (reading : Reading) : Except UsageStop Reading := do
  let reading ← reading.settle
  match argument with
  | .help => throw .help
  | .version => throw .version
  | .switch switch =>
      let reading ← reading.note argument
      return { reading with options := reading.options.turnOn switch }
  | .value option => take option none reading

/-- Reads an argument behind its two dashes. -/
def readLong (text : List Char) (reading : Reading) : Except UsageStop Reading :=
  let name := String.ofList (text.takeWhile (· != '='))
  let value := match text.dropWhile (· != '=') with
    | [] => none
    | _ :: value => some (String.ofList value)
  match Argument.long.lookup name, value with
  | none, _ => .error .unknownArgument
  | some (.value option), value => reading.take option value
  | some _, some _ => .error .unwantedValue
  | some argument, none => reading.takeSwitch argument

/-- Reads the letters behind one dash; an option that takes a value takes the letters behind it. -/
def readShort : List Char → Reading → Except UsageStop Reading
  | [], reading => .ok reading
  | letter :: rest, reading =>
      match Argument.short.lookup letter with
      | none => .error .unknownArgument
      | some (.value option) =>
          match rest with
          | [] => reading.take option none
          | '=' :: value => reading.take option (some (String.ofList value))
          | value => reading.take option (some (String.ofList value))
      | some argument => do
          let reading ← reading.takeSwitch argument
          readShort rest reading

/-- Reads an argument that names no option: it is the value that the last option waits for. -/
def readValue (text : String) (reading : Reading) : Except UsageStop Reading :=
  match reading.pending with
  | some (option, none) => .ok { reading with pending := some (option, some text) }
  | _ => .error .unknownArgument

/-- Reads an argument. -/
def read (reading : Reading) (argument : String) : Except UsageStop Reading :=
  if reading.optionsOver then .error .unknownArgument
  else
    match argument.toList with
    | ['-', '-'] => .ok { reading with optionsOver := true }
    | '-' :: '-' :: text => reading.readLong text
    | '-' :: letter :: letters => reading.readShort (letter :: letters)
    | _ => reading.readValue argument

end Reading

/-- The options of a command line. -/
def Options.ofArguments (arguments : List String) : Except UsageStop Options := do
  let reading ← arguments.foldlM Reading.read {}
  return (← reading.settle).options

end ModelScribe

import ModelScribe.Layout.Options
import ModelScribe.Module.Convention

/-! # Command line options

* `Options`: what a command line asks for.
* `Argument`: the options by name, long and short.
* `UsageStop`: why a command line leads to no run.
-/

namespace ModelScribe

/-- What a command line asks for. -/
structure Options where
  input : Option String := none
  pointer : Option String := none
  filter : Option String := none
  convention : Option Convention := none
  rootName : Option String := none
  indent : Option IndentStyle := none
  raw : Bool := false
  noHeader : Bool := false
  noImport : Bool := false
  output : Option String := none
  settingsFile : Option String := none
  dryRun : Bool := false
  deriving DecidableEq

/-- The options that take a value. -/
inductive ValueOption
  | input
  | pointer
  | filter
  | convention
  | rootName
  | indent
  | output
  | settingsFile
  deriving DecidableEq

/-- The options that are given or not. -/
inductive Switch
  | raw
  | noHeader
  | noImport
  | dryRun
  deriving DecidableEq

/-- What an argument with leading dashes may name. -/
inductive Argument
  | value (option : ValueOption)
  | switch (switch : Switch)
  | help
  | version
  deriving DecidableEq

namespace Argument

/-- The arguments that start with two dashes. -/
def long : List (String × Argument) :=
  [("input", value .input), ("json-pointer", value .pointer), ("jq", value .filter),
    ("module", value .convention), ("root-name", value .rootName), ("indent", value .indent),
    ("raw", switch .raw), ("no-header", switch .noHeader), ("no-import", switch .noImport),
    ("out", value .output), ("config", value .settingsFile), ("no-op", switch .dryRun),
    ("help", help), ("version", version)]

/-- The arguments that are one letter behind a dash. -/
def short : List (Char × Argument) :=
  [('i', value .input), ('o', value .output), ('h', help), ('V', version)]

end Argument

/-- Why a command line leads to no run. -/
inductive UsageStop
  | unknownArgument
  | invalidValue
  /-- An option that may be given once is given twice. -/
  | repeatedArgument
  /-- A switch is given a value. -/
  | unwantedValue
  | help
  | version
  deriving DecidableEq

namespace UsageStop

/-- The name of the reason. -/
def kind : UsageStop → String
  | unknownArgument => "UnknownArgument"
  | invalidValue => "InvalidValue"
  | repeatedArgument => "ArgumentConflict"
  | unwantedValue => "TooManyValues"
  | help => "DisplayHelp"
  | version => "DisplayVersion"

/-- Asking for help or the version is no failure. -/
def exitCode : UsageStop → Nat
  | help | version => 0
  | _ => 2

end UsageStop

namespace Options

/-- Gives an option a value, if it is one that the option takes. -/
def set (options : Options) (option : ValueOption) (value : String) :
    Except UsageStop Options :=
  let place (given : Options) : Except UsageStop Options :=
    if value.isEmpty then .error .invalidValue else .ok given
  match option with
  | .input => place { options with input := some value }
  | .output => place { options with output := some value }
  | .settingsFile => place { options with settingsFile := some value }
  | .pointer => .ok { options with pointer := some value }
  | .filter => .ok { options with filter := some value }
  | .rootName => .ok { options with rootName := some value }
  | .convention =>
      match Convention.all.find? (·.keyword = value) with
      | some convention => .ok { options with convention := some convention }
      | none => .error .invalidValue
  | .indent =>
      match IndentStyle.all.find? (·.keyword = value) with
      | some style => .ok { options with indent := some style }
      | none => .error .invalidValue

/-- Turns a switch on. -/
def turnOn (options : Options) : Switch → Options
  | .raw => { options with raw := true }
  | .noHeader => { options with noHeader := true }
  | .noImport => { options with noImport := true }
  | .dryRun => { options with dryRun := true }

end Options

end ModelScribe

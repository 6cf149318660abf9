import ModelScribe.CommandLine.Help
import ModelScribe.CommandLine.Host
import ModelScribe.CommandLine.Reading
import ModelScribe.CommandLine.Report
import ModelScribe.Filter

/-! # Runs

A run goes through its stages in order, and the first one that fails ends it: settings file, dry
run, source, document, module, output. Nothing is written before the last stage.

* `Run.settings`, `Run.source`, `Run.deliver`: the stages that look at or change the surroundings.
* `Run.run`: a whole run.
* `Run.execute`: a run with its messages and exit code.
-/

namespace ModelScribe.Run

variable {m : Type → Type} [Monad m] [Host m] [FilterLibrary]

/-- A stage of a run. -/
abbrev Stage (m : Type → Type) (α : Type) : Type := ExceptT RunFailure m α

/-- A stage that does not look at the surroundings. -/
def settled {α : Type} (result : Except Failure α) : Stage m α :=
  ExceptT.mk (pure (result.mapError .refused))

/-- A step of the host whose problem ends the run. -/
def step {α : Type} (failure : FileProblem → RunFailure) (action : m (Except FileProblem α)) :
    Stage m α :=
  ExceptT.mk (do return (← action).mapError failure)

/-- The settings of a run. -/
def settings (options : Options) : Stage m Settings :=
  match options.settingsFile with
  | none => return .resolve options {}
  | some path => do
      let text ← step (fun problem => .refused (.unreadable path problem)) (Host.readFile path)
      return .resolve options (← settled (SettingsFile.ofText text path))

/-- The name of standard input in messages. -/
def inputName : String := "<stdin>"

/-- The source text: that of the input file, or standard input where none or a dash is given. -/
def source (options : Options) : Stage m String :=
  match options.input with
  | none | some "-" =>
      step (fun problem => .refused (.unreadable inputName problem)) Host.readInput
  | some path => step (fun problem => .refused (.unreadable path problem)) (Host.readFile path)

/-- Writes the module to the output file, whose directory is made first, or to standard output. -/
def deliver (options : Options) (text : String) : Stage m Unit :=
  match options.output with
  | none => ExceptT.lift (Host.print text)
  | some path => do
      match Path.parent? path with
      | none | some "" => pure ()
      | some directory => step (.notCreated directory) (Host.createDirectories directory)
      step (.notWritten path) (Host.writeFile path text)

/-- The module of a run: its source read, its document selected and rendered. -/
def produce (options : Options) (settings : Settings) : Stage m String := do
  let document ← settled (options.select (← source options))
  let stamp ← ExceptT.lift Host.now
  settled (settings.render stamp document)

/-- A whole run. -/
def run (options : Options) : Stage m Unit := do
  let settings ← settings options
  if options.dryRun then ExceptT.lift (Host.report (dryRunText options settings))
  else deliver options ((← produce options settings) ++ "\n")

/-- The words before an error. -/
def errorLine (failure : RunFailure) : String := "error: " ++ failure.chain ++ "\n"

/-- Answers a command line that leads to no run. -/
def explain (stop : UsageStop) : m Nat := do
  match stop with
  | .version => Host.print Help.version
  | .help => Host.print Help.text
  | _ => Host.report stop.text
  return stop.exitCode

/-- A run with its messages, and its exit code. -/
def execute (arguments : List String) : m Nat := do
  match Options.ofArguments arguments with
  | .error stop => explain stop
  | .ok options =>
      match ← (run options).run with
      | .ok () => return 0
      | .error failure =>
          Host.report (errorLine failure)
          return 1

end ModelScribe.Run

import ModelScribe.CommandLine.Run

/-! # The stages of a run

What each stage of a run finds at a desk is given as a function of the desk, and a
run is put together from these (`ModelScribe.Run.run_eq`). Only its last part, the
delivery, prints or changes files.
-/

namespace ModelScribe

namespace Desk

/-- The text of the file that a path leads to. -/
def fileText (path : String) (desk : Desk) : Except FileProblem String :=
  desk.files.readText desk.workingDirectory path

/-- The text of the input. -/
def inputText (desk : Desk) : Except FileProblem String :=
  match String.fromUTF8? desk.input with
  | some text => .ok text
  | none => .error .notText

def noteFile (path : String) (desk : Desk) : Desk :=
  { desk with filesRead := desk.filesRead ++ [path] }

def useInput (desk : Desk) : Desk :=
  { desk with inputUsed := desk.inputUsed || !desk.input.isEmpty }

end Desk

/-- The file that the source is read from, if it is not standard input. -/
def Options.inputFile? (options : Options) : Option String :=
  options.input.filter (· ≠ "-")

/-- The text of the source, from its file or from standard input. -/
def Desk.sourceText (options : Options) (desk : Desk) : Except FileProblem String :=
  match options.inputFile? with
  | none => desk.inputText
  | some path => desk.fileText path

/-- The name of the source in messages. -/
def Options.sourceName (options : Options) : String :=
  options.inputFile?.getD Run.inputName

namespace Run

/-- The settings that a run finds. -/
def foundSettings (options : Options) (desk : Desk) : Except Failure Settings :=
  match options.settingsFile with
  | none => .ok (.resolve options {})
  | some path => do
      let text ← (desk.fileText path).mapError (.unreadable path)
      return .resolve options (← SettingsFile.ofText text path)

/-- The source text that a run finds. -/
def foundSource (options : Options) (desk : Desk) : Except Failure String :=
  (desk.sourceText options).mapError (.unreadable options.sourceName)

/-- The module that a run makes with settings. -/
def foundModule [FilterLibrary] (options : Options) (settings : Settings) (desk : Desk) :
    Except Failure String := do
  let document ← options.select (← foundSource options desk)
  settings.render desk.clock document

/-- The desk once the settings have been read. -/
def afterSettings (options : Options) (desk : Desk) : Desk :=
  options.settingsFile.elim desk desk.noteFile

/-- The desk once the source has been read. -/
def afterSource (options : Options) (desk : Desk) : Desk :=
  options.inputFile?.elim desk.useInput desk.noteFile

/-- Reading settings and source prints nothing and changes no file. -/
theorem afterSettings_keeps (options : Options) (desk : Desk) :
    (afterSettings options desk).output = desk.output ∧
      (afterSettings options desk).files = desk.files ∧
      (afterSettings options desk).workingDirectory = desk.workingDirectory ∧
      (afterSettings options desk).inputUsed = desk.inputUsed ∧
      (afterSettings options desk).filesRead = desk.filesRead ++ options.settingsFile.toList := by
  unfold afterSettings
  cases options.settingsFile with
  | none => exact ⟨rfl, rfl, rfl, rfl, (List.append_nil _).symm⟩
  | some path => exact ⟨rfl, rfl, rfl, rfl, rfl⟩

/-- Reading the source prints nothing and changes no file. -/
theorem afterSource_keeps (options : Options) (desk : Desk) :
    (afterSource options desk).output = desk.output ∧
      (afterSource options desk).files = desk.files ∧
      (afterSource options desk).workingDirectory = desk.workingDirectory := by
  unfold afterSource
  cases options.inputFile? with
  | none => exact ⟨rfl, rfl, rfl⟩
  | some path => exact ⟨rfl, rfl, rfl⟩

section Stage

variable {α β : Type}

/-- Behind a stage that succeeds the run goes on, and a stage that fails ends it. -/
theorem run_bind (first : Stage (StateM Desk) α) (next : α → Stage (StateM Desk) β)
    (desk : Desk) :
    (first >>= next).run desk = match first.run desk with
      | (.ok value, after) => (next value).run after
      | (.error failure, after) => (.error failure, after) := by
  rw [ExceptT.run_bind]
  show StateT.bind first.run _ desk = _
  unfold StateT.bind
  rcases first.run desk with ⟨result, after⟩
  cases result <;> rfl

end Stage

/-- Reading a file finds its text and is noted. -/
theorem readFile_eq (failure : FileProblem → RunFailure) (path : String) (desk : Desk) :
    (step (m := StateM Desk) failure (Host.readFile path)).run desk =
      ((desk.fileText path).mapError failure, desk.noteFile path) := rfl

/-- Reading standard input finds its text and uses it. -/
theorem readInput_eq (failure : FileProblem → RunFailure) (desk : Desk) :
    (step (m := StateM Desk) failure Host.readInput).run desk =
      (desk.inputText.mapError failure, desk.useInput) := rfl

theorem createDirectories_eq (failure : FileProblem → RunFailure) (path : String) (desk : Desk) :
    (step (m := StateM Desk) failure (Host.createDirectories path)).run desk =
      ((desk.createDirectories path).1.mapError failure, (desk.createDirectories path).2) := rfl

theorem writeFile_eq (failure : FileProblem → RunFailure) (path content : String) (desk : Desk) :
    (step (m := StateM Desk) failure (Host.writeFile path content)).run desk =
      ((desk.writeFile path content).1.mapError failure, (desk.writeFile path content).2) := rfl

/-- The stage of the settings finds them, and has read the settings file. -/
theorem settings_eq (options : Options) (desk : Desk) :
    (settings (m := StateM Desk) options).run desk =
      ((foundSettings options desk).mapError .refused, afterSettings options desk) := by
  unfold settings foundSettings afterSettings
  cases options.settingsFile with
  | none => rfl
  | some path =>
      dsimp only
      rw [run_bind, readFile_eq]
      cases desk.fileText path with
      | error problem => rfl
      | ok text =>
          show _ = (Except.mapError RunFailure.refused (SettingsFile.ofText text path >>= _), _)
          dsimp only [Except.mapError]
          rw [run_bind]
          cases SettingsFile.ofText text path <;> rfl

/-- The stage of the source finds it, and has read the source. -/
theorem source_eq (options : Options) (desk : Desk) :
    (source (m := StateM Desk) options).run desk =
      ((foundSource options desk).mapError .refused, afterSource options desk) := by
  have own : source (m := StateM Desk) options = match options.inputFile? with
      | none => step (fun problem => .refused (.unreadable inputName problem)) Host.readInput
      | some path =>
          step (fun problem => .refused (.unreadable path problem)) (Host.readFile path) := by
    unfold source Options.inputFile?
    split
    · next none => rw [none]; rfl
    · next dash => rw [dash]; rfl
    · next path other given =>
        have apart : path ≠ "-" := other
        rw [given, Option.filter_some, if_pos (decide_eq_true apart)]
  rw [own]
  unfold foundSource Desk.sourceText Options.sourceName afterSource
  cases options.inputFile? with
  | none =>
      dsimp only
      rw [readInput_eq]
      cases desk.inputText <;> rfl
  | some path =>
      dsimp only
      rw [readFile_eq]
      cases desk.fileText path <;> rfl

section Whole

variable [FilterLibrary]

/-- The stage of the module finds it, and has read the source. -/
theorem produce_eq (options : Options) (settings : Settings) (desk : Desk) :
    (produce (m := StateM Desk) options settings).run desk =
      ((foundModule options settings desk).mapError .refused, afterSource options desk) := by
  have clock : (afterSource options desk).clock = desk.clock := by
    unfold afterSource
    cases options.inputFile? <;> rfl
  unfold produce foundModule
  rw [run_bind, source_eq]
  cases foundSource options desk with
  | error failure => rfl
  | ok source =>
      show ExceptT.run (settled (m := StateM Desk) (options.select source) >>= _)
          (afterSource options desk) =
        (Except.mapError RunFailure.refused (options.select source >>= _), afterSource options desk)
      rw [run_bind]
      cases options.select source with
      | error failure => rfl
      | ok document =>
          show ((settings.render (afterSource options desk).clock document).mapError
            RunFailure.refused, afterSource options desk) = _
          rw [clock]
          rfl

/-- Reading the settings leaves alone what a module is made of. -/
theorem foundModule_afterSettings (options : Options) (settings : Settings) (desk : Desk) :
    foundModule options settings (afterSettings options desk) =
      foundModule options settings desk := by
  unfold afterSettings
  cases options.settingsFile <;> rfl

/-- **A run by its stages.** A run ends with the settings, with the report of a dry run, with the
making of the module or with its delivery. -/
theorem run_eq (options : Options) (desk : Desk) :
    (run (m := StateM Desk) options).run desk =
      match foundSettings options desk with
      | .error failure => (.error (.refused failure), afterSettings options desk)
      | .ok settings =>
          let after := afterSettings options desk
          if options.dryRun then
            (.ok (), { after with reports := after.reports ++ dryRunText options settings })
          else
            match foundModule options settings desk with
            | .error failure => (.error (.refused failure), afterSource options after)
            | .ok text =>
                (deliver (m := StateM Desk) options (text ++ "\n")).run
                  (afterSource options after) := by
  unfold run
  rw [run_bind, settings_eq]
  cases foundSettings options desk with
  | error failure => rfl
  | ok settings =>
      dsimp only [Except.mapError]
      cases options.dryRun with
      | true => rfl
      | false =>
          rw [if_neg Bool.false_ne_true, if_neg Bool.false_ne_true, run_bind, produce_eq,
            foundModule_afterSettings]
          cases foundModule options settings desk <;> rfl

variable {options : Options} {settings : Settings} {desk : Desk}

/-- A run without settings ends there. -/
theorem run_of_noSettings {failure : Failure} (bad : foundSettings options desk = .error failure) :
    (run (m := StateM Desk) options).run desk =
      (.error (.refused failure), afterSettings options desk) := by
  rw [run_eq, bad]

/-- A dry run with settings ends with its report. -/
theorem run_of_dryRun (found : foundSettings options desk = .ok settings)
    (dry : options.dryRun = true) :
    (run (m := StateM Desk) options).run desk =
      (.ok (), { afterSettings options desk with
        reports := (afterSettings options desk).reports ++ dryRunText options settings }) := by
  rw [run_eq, found]
  dsimp only
  rw [if_pos dry]

variable (found : foundSettings options desk = .ok settings) (wet : options.dryRun = false)

include found wet

/-- A run without a module ends once the source has been read. -/
theorem run_of_noModule {failure : Failure}
    (failed : foundModule options settings desk = .error failure) :
    (run (m := StateM Desk) options).run desk =
      (.error (.refused failure), afterSource options (afterSettings options desk)) := by
  rw [run_eq, found]
  dsimp only
  rw [if_neg (Bool.eq_false_iff.mp wet), failed]

/-- A run with a module ends with its delivery. -/
theorem run_of_module {text : String} (made : foundModule options settings desk = .ok text) :
    (run (m := StateM Desk) options).run desk =
      (deliver (m := StateM Desk) options (text ++ "\n")).run
        (afterSource options (afterSettings options desk)) := by
  rw [run_eq, found]
  dsimp only
  rw [if_neg (Bool.eq_false_iff.mp wet), made]

end Whole

end Run

end ModelScribe

import ModelScribe.Proofs.CommandLine.Delivery

/-! # The phases of a run

The phases of a run have an order, and a run ends in the first one that fails, or in a later one if
none does.

* `ModelScribe.Run.Ends`: how a run ends in each phase.
* `ModelScribe.Run.exists_ends`: every run ends.
* `ModelScribe.Run.Ends.answer_eq`: the answer of a run is that of the phase in which it ends.
-/

namespace ModelScribe

/-- What a run finds: files, standard input and the time. -/
structure World where
  files : FileTree
  /-- The names that lead to the working directory. -/
  workingDirectory : List String
  input : ByteArray
  clock : Stamp

namespace World

/-- The desk at which a run starts. -/
def desk (world : World) : Desk where
  files := world.files
  workingDirectory := world.workingDirectory
  input := world.input
  clock := world.clock

/-- What a run reads of standard input when it reads its source. -/
def inputFor (options : Options) (world : World) : ByteArray :=
  if options.inputFile? = none then world.input else .empty

end World

namespace Desk

/-- The bytes of the input that have been read. -/
def inputRead (desk : Desk) : ByteArray :=
  if desk.inputUsed then desk.input else .empty

/-- Once the input is used, all of it has been read. -/
theorem inputRead_useInput (desk : Desk) : desk.useInput.inputRead = desk.input := by
  unfold inputRead useInput
  split
  · rfl
  · next unused =>
      -- only an input without bytes can have been read without a trace
      obtain ⟨-, empty⟩ := Bool.or_eq_false_iff.mp (Bool.eq_false_iff.mpr unused)
      have none : desk.input = .empty := by simpa [ByteArray.isEmpty] using empty
      exact none.symm

end Desk

namespace Run

/-- What a run gives: its result, what it prints to standard output and what it reads of standard
input. -/
structure Answer where
  result : Except RunFailure Unit
  output : String
  inputRead : ByteArray

/-- The answer of a run in a world. -/
def answer [FilterLibrary] (options : Options) (world : World) : Answer :=
  let outcome := (run (m := StateM Desk) options).run world.desk
  { result := outcome.1, output := outcome.2.output, inputRead := outcome.2.inputRead }

/-- The phases of a run, in order. -/
inductive Phase
  | readSettings
  | decodeSettings
  | dryRun
  | readSource
  | parse
  | point
  | filter
  | checkObject
  | deliver

/-- A phase comes no later than another. -/
instance : LE Phase := ⟨fun first second => first.ctorIdx ≤ second.ctorIdx⟩

instance (first second : Phase) : Decidable (first ≤ second) :=
  inferInstanceAs (Decidable (first.ctorIdx ≤ second.ctorIdx))

/-- The settings are found and it is no dry run, so that a run reads its source. -/
structure Starts (options : Options) (desk : Desk) (settings : Settings) : Prop where
  found : foundSettings options desk = .ok settings
  wet : options.dryRun = false

/-- A run reads its source. -/
structure Reads (options : Options) (desk : Desk) (settings : Settings) (source : String) : Prop
    extends Starts options desk settings where
  read : desk.sourceText options = .ok source

/-- A run ends in a phase with a result and has printed a text: the phases before have succeeded. -/
inductive Ends [FilterLibrary] (options : Options) (desk : Desk) :
    Phase → Except RunFailure Unit → String → Prop
  | readSettings {path : String} {problem : FileProblem} (given : options.settingsFile = some path)
      (unread : desk.fileText path = .error problem) :
      Ends options desk .readSettings (.error (.refused (.unreadable path problem))) ""
  | decodeSettings {path text : String} {error : DecodeError}
      (given : options.settingsFile = some path) (read : desk.fileText path = .ok text)
      (bad : SettingsFile.decode text = .error error) :
      Ends options desk .decodeSettings (.error (.refused (.badSettings path error.message))) ""
  | dryRun {settings : Settings} (found : foundSettings options desk = .ok settings)
      (dry : options.dryRun = true) : Ends options desk .dryRun (.ok ()) ""
  | readSource {settings : Settings} {problem : FileProblem} (starts : Starts options desk settings)
      (unread : desk.sourceText options = .error problem) :
      Ends options desk .readSource
        (.error (.refused (.unreadable options.sourceName problem))) ""
  | parse {settings : Settings} {source : String} {error : JsonError}
      (reads : Reads options desk settings source) (bad : Json.parse source = .error error) :
      Ends options desk .parse (.error (.refused (.notJson error))) ""
  | point {settings : Settings} {source pointer : String} {document : Json}
      (reads : Reads options desk settings source) (parsed : Json.parse source = .ok document)
      (given : options.pointer = some pointer) (nowhere : document.pointed? pointer = none) :
      Ends options desk .point (.error (.refused (.pointsNowhere pointer))) ""
  | filter {settings : Settings} {source filter : String} {document part : Json}
      {problem : FilterProblem} (reads : Reads options desk settings source)
      (parsed : Json.parse source = .ok document) (pointed : options.pointed document = .ok part)
      (given : options.filter = some filter) (bad : Filter.firstOf filter part = .error problem) :
      Ends options desk .filter (.error (.refused (.ofFilter problem))) ""
  | checkObject {settings : Settings} {source : String} {document : Json}
      (reads : Reads options desk settings source)
      (selected : options.select source = .ok document)
      (other : ∀ members, document ≠ .object members) :
      Ends options desk .checkObject
        (.error (.refused (.rootNotObject document.kindName))) ""
  | deliver {settings : Settings} {source text : String} {members : List (String × Json)}
      (reads : Reads options desk settings source)
      (selected : options.select source = .ok (.object members))
      (rendered : settings.render desk.clock (.object members) = .ok text) :
      Ends options desk .deliver ((Run.deliver (m := StateM Desk) options (text ++ "\n")).run desk).1
        (if options.output = none then text ++ "\n" else "")

section Answer

variable {options : Options} {desk : Desk} {settings : Settings} {source : String}
  {document part : Json} {failure : Failure}

/-- A settings file that cannot be read is refused. -/
theorem foundSettings_unreadable {path : String} {problem : FileProblem}
    (given : options.settingsFile = some path) (unread : desk.fileText path = .error problem) :
    foundSettings options desk = .error (.unreadable path problem) := by
  unfold foundSettings
  rw [given]
  dsimp only
  rw [unread]
  rfl

/-- A settings file that cannot be decoded is refused. -/
theorem foundSettings_bad {path text : String} {error : DecodeError}
    (given : options.settingsFile = some path) (read : desk.fileText path = .ok text)
    (bad : SettingsFile.decode text = .error error) :
    foundSettings options desk = .error (.badSettings path error.message) := by
  unfold foundSettings
  rw [given]
  dsimp only
  rw [read]
  show (SettingsFile.ofText text path >>= _) = _
  rw [SettingsFile.ofText, bad]
  rfl

/-- A pointer that leads nowhere is refused. -/
theorem pointed_of_nowhere {pointer : String} (given : options.pointer = some pointer)
    (nowhere : document.pointed? pointer = none) :
    options.pointed document = .error (.pointsNowhere pointer) := by
  unfold Options.pointed
  rw [given]
  dsimp only
  rw [nowhere]

/-- What is no object has no module, whatever the time is. -/
theorem render_of_other (other : ∀ members, document ≠ .object members) (stamp : Stamp) :
    settings.render stamp document = .error (.rootNotObject document.kindName) := by
  unfold Settings.render Settings.planFor
  split
  · next members => exact absurd rfl (other members)
  · rfl

/-- Once the source has been read nothing is printed, and the input has been read as far as the
options say. -/
theorem afterSource_answer (options : Options) (world : World) :
    let after := afterSource options (afterSettings options world.desk)
    after.output = "" ∧ after.inputRead = world.inputFor options := by
  unfold afterSource afterSettings World.inputFor
  cases options.inputFile? with
  | none => cases options.settingsFile <;> exact ⟨rfl, Desk.inputRead_useInput _⟩
  | some path => cases options.settingsFile <;> exact ⟨rfl, rfl⟩

/-- A delivery prints the text if there is no output file, and reads nothing. -/
theorem deliver_answer (options : Options) (text : String) (desk : Desk) :
    let after := ((deliver (m := StateM Desk) options text).run desk).2
    after.output = desk.output ++ (if options.output = none then text else "") ∧
      after.inputRead = desk.inputRead := by
  cases given : options.output with
  | none =>
      rw [deliver_none given]
      exact ⟨rfl, rfl⟩
  | some path =>
      obtain ⟨files, after⟩ := exists_deliver_some given text desk
      rw [after]
      exact ⟨String.append_empty.symm, rfl⟩

variable [FilterLibrary]

/-- A source that is no JSON is refused as such. -/
theorem select_of_notJson {error : JsonError} (bad : Json.parse source = .error error) :
    options.select source = .error (.notJson error) := by
  unfold Options.select
  rw [bad]
  rfl

/-- What is selected from a source is pointed to in its document and then filtered. -/
theorem select_of_parse (parsed : Json.parse source = .ok document) :
    options.select source = options.pointed document >>= options.filtered := by
  unfold Options.select
  rw [parsed]
  rfl

/-- A filter without a first output is refused. -/
theorem filtered_of_bad {filter : String} {problem : FilterProblem}
    (given : options.filter = some filter) (bad : Filter.firstOf filter part = .error problem) :
    options.filtered part = .error (.ofFilter problem) := by
  unfold Options.filtered
  rw [given]
  dsimp only
  rw [bad]
  rfl

/-- The module of a run is rendered from what is selected in the source. -/
theorem Reads.foundModule_eq (reads : Reads options desk settings source) :
    foundModule options settings desk =
      options.select source >>= settings.render desk.clock := by
  unfold foundModule foundSource
  rw [reads.read]
  rfl

variable {world : World}

/-- A run without settings is refused before it reads standard input. -/
theorem answer_of_noSettings (bad : foundSettings options world.desk = .error failure) :
    answer options world =
      { result := .error (.refused failure), output := "", inputRead := .empty } := by
  unfold answer
  rw [run_of_noSettings bad, afterSettings]
  cases options.settingsFile <;> rfl

/-- A dry run with settings succeeds before it reads standard input. -/
theorem answer_of_dryRun (found : foundSettings options world.desk = .ok settings)
    (dry : options.dryRun = true) :
    answer options world = { result := .ok (), output := "", inputRead := .empty } := by
  unfold answer
  rw [run_of_dryRun found dry, afterSettings]
  cases options.settingsFile <;> rfl

/-- A run without a module is refused once the source has been read. -/
theorem answer_of_noModule (starts : Starts options world.desk settings)
    (failed : foundModule options settings world.desk = .error failure) :
    answer options world =
      { result := .error (.refused failure), output := "", inputRead := world.inputFor options } := by
  obtain ⟨output, inputRead⟩ := afterSource_answer options world
  unfold answer
  rw [run_of_noModule starts.found starts.wet failed]
  dsimp only
  rw [output, inputRead]

/-- Reading settings and source has no part in the result of a delivery. -/
theorem answer_of_module {text : String} (starts : Starts options world.desk settings)
    (made : foundModule options settings world.desk = .ok text) :
    answer options world =
      { result := ((deliver (m := StateM Desk) options (text ++ "\n")).run world.desk).1
        output := if options.output = none then text ++ "\n" else ""
        inputRead := world.inputFor options } := by
  obtain ⟨-, files, base, -⟩ := afterSettings_keeps options world.desk
  obtain ⟨-, kept, stays⟩ := afterSource_keeps options (afterSettings options world.desk)
  obtain ⟨output, inputRead⟩ := afterSource_answer options world
  obtain ⟨printed, unread⟩ := deliver_answer options (text ++ "\n")
    (afterSource options (afterSettings options world.desk))
  have same : ((deliver (m := StateM Desk) options (text ++ "\n")).run
      (afterSource options (afterSettings options world.desk))).1 =
        ((deliver (m := StateM Desk) options (text ++ "\n")).run world.desk).1 := by
    apply deliver_congr
    intro path given
    refine ⟨stays.trans base, fun names through => ?_⟩
    rw [kept, files]
  unfold answer
  rw [run_of_module starts.found starts.wet made]
  dsimp only
  rw [same, printed, unread, output, inputRead, String.empty_append]

/-- The answer of a run is that of the phase in which it ends. -/
theorem Ends.answer_eq {phase : Phase} {result : Except RunFailure Unit} {printed : String}
    (ends : Ends options world.desk phase result printed) :
    answer options world =
      { result, output := printed,
        inputRead := if Phase.readSource ≤ phase then world.inputFor options else .empty } := by
  cases ends with
  | readSettings given unread => exact answer_of_noSettings (foundSettings_unreadable given unread)
  | decodeSettings given read bad => exact answer_of_noSettings (foundSettings_bad given read bad)
  | dryRun found dry => exact answer_of_dryRun found dry
  | readSource starts unread =>
      apply answer_of_noModule starts
      unfold foundModule foundSource
      rw [unread]
      rfl
  | parse reads bad =>
      apply answer_of_noModule reads.toStarts
      rw [reads.foundModule_eq, select_of_notJson bad]
      rfl
  | point reads parsed given nowhere =>
      apply answer_of_noModule reads.toStarts
      rw [reads.foundModule_eq, select_of_parse parsed, pointed_of_nowhere given nowhere]
      rfl
  | filter reads parsed pointed given bad =>
      apply answer_of_noModule reads.toStarts
      rw [reads.foundModule_eq, select_of_parse parsed, pointed]
      show (options.filtered _ >>= _) = _
      rw [filtered_of_bad given bad]
      rfl
  | checkObject reads selected other =>
      apply answer_of_noModule reads.toStarts
      rw [reads.foundModule_eq, selected]
      exact render_of_other other _
  | deliver reads selected rendered =>
      apply answer_of_module reads.toStarts
      rw [reads.foundModule_eq, selected]
      exact rendered

end Answer

section Every

variable {options : Options} {desk : Desk} {settings : Settings}

/-- Pointing fails only where there is a pointer that leads nowhere. -/
theorem pointed_eq_error {document : Json} {failure : Failure}
    (fails : options.pointed document = .error failure) :
    ∃ pointer, options.pointer = some pointer ∧ document.pointed? pointer = none := by
  unfold Options.pointed at fails
  split at fails
  · cases fails
  · next pointer given =>
      split at fails
      · cases fails
      · next nowhere => exact ⟨pointer, given, nowhere⟩

variable [FilterLibrary]

/-- A run without settings ends before the phase that reads the source. -/
theorem exists_ends_of_noSettings {failure : Failure}
    (bad : foundSettings options desk = .error failure) :
    ∃ phase result printed, Ends options desk phase result printed ∧ ¬Phase.readSource ≤ phase := by
  unfold foundSettings at bad
  cases given : options.settingsFile with
  | none =>
      rw [given] at bad
      cases bad
  | some path =>
      cases read : desk.fileText path with
      | error problem => exact ⟨_, _, _, .readSettings given read, by decide⟩
      | ok text =>
          cases decoded : SettingsFile.decode text with
          | error error => exact ⟨_, _, _, .decodeSettings given read decoded, by decide⟩
          | ok file =>
              rw [given] at bad
              dsimp only at bad
              rw [read] at bad
              change (SettingsFile.ofText text path >>= _) = _ at bad
              rw [SettingsFile.ofText, decoded] at bad
              cases bad

/-- Filtering fails only where there is a filter without a first output. -/
theorem filtered_eq_error {part : Json} {failure : Failure}
    (fails : options.filtered part = .error failure) :
    ∃ filter problem, options.filter = some filter ∧
      Filter.firstOf filter part = .error problem := by
  unfold Options.filtered at fails
  split at fails
  · cases fails
  · next filter given =>
      cases bad : Filter.firstOf filter part with
      | error problem => exact ⟨filter, problem, given, bad⟩
      | ok selected =>
          rw [bad] at fails
          cases fails

/-- A run that has selected a document ends in one of the last two phases. -/
theorem Reads.exists_ends {source : String} {document : Json}
    (reads : Reads options desk settings source) (selected : options.select source = .ok document) :
    ∃ phase result printed, Ends options desk phase result printed := by
  by_cases object : ∃ members, document = .object members
  · obtain ⟨members, rfl⟩ := object
    exact ⟨_, _, _, .deliver reads selected rfl⟩
  · exact ⟨_, _, _, .checkObject reads selected fun members same => object ⟨members, same⟩⟩

/-- A run that goes on to its source ends in some phase. -/
theorem Starts.exists_ends (starts : Starts options desk settings) :
    ∃ phase result printed, Ends options desk phase result printed := by
  cases read : desk.sourceText options with
  | error problem => exact ⟨_, _, _, .readSource starts read⟩
  | ok source =>
      have reads : Reads options desk settings source := ⟨starts, read⟩
      cases parsed : Json.parse source with
      | error error => exact ⟨_, _, _, .parse reads parsed⟩
      | ok document =>
          cases pointed : options.pointed document with
          | error failure =>
              obtain ⟨pointer, given, nowhere⟩ := pointed_eq_error pointed
              exact ⟨_, _, _, .point reads parsed given nowhere⟩
          | ok part =>
              cases filtered : options.filtered part with
              | error failure =>
                  obtain ⟨filter, problem, given, bad⟩ := filtered_eq_error filtered
                  exact ⟨_, _, _, .filter reads parsed pointed given bad⟩
              | ok selected =>
                  have whole : options.select source = .ok selected := by
                    rw [select_of_parse parsed, pointed]
                    exact filtered
                  exact reads.exists_ends whole

/-- Every run ends in some phase. -/
theorem exists_ends (options : Options) (desk : Desk) :
    ∃ phase result printed, Ends options desk phase result printed := by
  cases found : foundSettings options desk with
  | error failure =>
      obtain ⟨phase, result, printed, ends, -⟩ := exists_ends_of_noSettings found
      exact ⟨phase, result, printed, ends⟩
  | ok settings =>
      cases dry : options.dryRun with
      | true => exact ⟨_, _, _, .dryRun found dry⟩
      | false => exact Starts.exists_ends ⟨found, dry⟩

end Every

end Run

end ModelScribe

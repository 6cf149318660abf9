import ModelScribe.Proofs.CommandLine.Phases

/-! # The first failure of a run

What a run answers depends on nothing that only phases behind its end look at
(`ModelScribe.Run.first_failure_decides`).
-/

namespace ModelScribe.Run

open ModelScribe.Path

/-- What a phase looks at is the same in two worlds: of a file that is read, its text or the problem
of reading it; of the places on the way to the output file, whether there is a directory. -/
def LooksAlike (options : Options) (phase : Phase) (world other : World) : Prop :=
  match phase with
  | .readSettings => ∀ path, options.settingsFile = some path →
      world.desk.fileText path = other.desk.fileText path
  | .readSource =>
      match options.inputFile? with
      | none => world.input = other.input
      | some path => world.desk.fileText path = other.desk.fileText path
  | .deliver => world.clock = other.clock ∧ ∀ path, options.output = some path →
      world.workingDirectory = other.workingDirectory ∧
        FileTree.Alike (LeadsThrough world.workingDirectory path) world.files other.files
  | _ => True

section Alike

variable {options : Options} {world other : World} {settings : Settings} {source : String}

/-- Two worlds with the same settings file have the same settings. -/
theorem foundSettings_congr (alike : LooksAlike options .readSettings world other) :
    foundSettings options world.desk = foundSettings options other.desk := by
  unfold foundSettings
  cases given : options.settingsFile with
  | none => rfl
  | some path =>
      dsimp only
      rw [alike path given]

/-- Two worlds that look alike to the reading of the source have the same source. -/
theorem source_congr (alike : LooksAlike options .readSource world other) :
    world.desk.sourceText options = other.desk.sourceText options ∧
      world.inputFor options = other.inputFor options := by
  unfold LooksAlike at alike
  unfold Desk.sourceText World.inputFor
  cases given : options.inputFile? with
  | none =>
      rw [given] at alike
      have same : world.input = other.input := alike
      have text : world.desk.inputText = other.desk.inputText := by
        unfold Desk.inputText World.desk
        rw [same]
      exact ⟨text, same⟩
  | some path =>
      rw [given] at alike
      exact ⟨alike, rfl⟩

theorem Starts.of_alike (starts : Starts options world.desk settings)
    (alike : LooksAlike options .readSettings world other) : Starts options other.desk settings where
  found := (foundSettings_congr alike).symm.trans starts.found
  wet := starts.wet

theorem Reads.of_alike (reads : Reads options world.desk settings source)
    (alike : LooksAlike options .readSettings world other)
    (sourceAlike : LooksAlike options .readSource world other) :
    Reads options other.desk settings source where
  toStarts := reads.toStarts.of_alike alike
  read := (source_congr sourceAlike).1.symm.trans reads.read

variable [FilterLibrary]

/-- A run ends in the same way where all looks alike up to the phase in which it ends. -/
theorem Ends.of_alike {phase : Phase} {result : Except RunFailure Unit} {printed : String}
    (ends : Ends options world.desk phase result printed)
    (alike : ∀ earlier, earlier ≤ phase → LooksAlike options earlier world other) :
    Ends options other.desk phase result printed := by
  have settingsAlike : LooksAlike options .readSettings world other := alike _ (Nat.zero_le _)
  have later (late : Phase.readSource ≤ phase) {settings : Settings} {source : String}
      (reads : Reads options world.desk settings source) :
      Reads options other.desk settings source :=
    reads.of_alike settingsAlike (alike _ late)
  cases ends with
  | readSettings given unread => exact .readSettings given ((settingsAlike _ given).symm.trans unread)
  | decodeSettings given read bad =>
      exact .decodeSettings given ((settingsAlike _ given).symm.trans read) bad
  | dryRun found dry => exact .dryRun ((foundSettings_congr settingsAlike).symm.trans found) dry
  | readSource starts unread =>
      have sourceAlike := alike .readSource (Nat.le_refl _)
      exact .readSource (starts.of_alike settingsAlike)
        ((source_congr sourceAlike).1.symm.trans unread)
  | parse reads bad => exact .parse (later (by decide) reads) bad
  | point reads parsed given nowhere => exact .point (later (by decide) reads) parsed given nowhere
  | filter reads parsed pointed given bad =>
      exact .filter (later (by decide) reads) parsed pointed given bad
  | checkObject reads selected other => exact .checkObject (later (by decide) reads) selected other
  | @deliver settings source text members reads selected rendered =>
      obtain ⟨clock, files⟩ := alike .deliver (Nat.le_refl _)
      have same : ((Run.deliver (m := StateM Desk) options (text ++ "\n")).run world.desk).1 =
          ((Run.deliver (m := StateM Desk) options (text ++ "\n")).run other.desk).1 :=
        deliver_congr (text ++ "\n") files
      have stamp : world.desk.clock = other.desk.clock := clock
      rw [stamp] at rendered
      rw [same]
      exact .deliver (later (by decide) reads) selected rendered

/-- A world that looks alike up to the phase in which a run ends gets the same answer. -/
theorem Ends.answer_congr {phase : Phase} {result : Except RunFailure Unit} {printed : String}
    (ends : Ends options world.desk phase result printed)
    (alike : ∀ earlier, earlier ≤ phase → LooksAlike options earlier world other) :
    answer options other = answer options world := by
  rw [(ends.of_alike alike).answer_eq, ends.answer_eq]
  split
  · next late => rw [(source_congr (alike .readSource late)).2]
  · rfl

/-- A run that has not read standard input when it ends is the same whatever the input is. -/
theorem Ends.input_unread {phase : Phase} {result : Except RunFailure Unit} {printed : String}
    (ends : Ends options world.desk phase result printed)
    (unread : Phase.readSource ≤ phase → options.inputFile? ≠ none) :
    (answer options world).inputRead = .empty ∧
      ∀ input, answer options { world with input } = answer options world := by
  constructor
  · rw [ends.answer_eq]
    dsimp only
    split
    · next late => exact if_neg (unread late)
    · rfl
  · intro input
    have alike : ∀ earlier, earlier ≤ phase →
        LooksAlike options earlier world { world with input } := by
      intro earlier within
      cases earlier with
      | readSettings => exact fun path given => rfl
      | readSource =>
          unfold LooksAlike
          cases given : options.inputFile? with
          | none => exact absurd given (unread within)
          | some path => rfl
      | deliver => exact ⟨rfl, fun path given => ⟨rfl, fun names through => rfl⟩⟩
      | decodeSettings | dryRun | parse | point | filter | checkObject => trivial
    exact ends.answer_congr alike

/-- Where the settings are bad, in a dry run and where the source is a file, a run does not come to
standard input. -/
theorem exists_ends_of_early {desk : Desk}
    (early : (∃ failure, ((Run.settings (m := StateM Desk) options).run desk).1 = .error failure) ∨
      options.dryRun = true ∨ (∃ path, options.input = some path ∧ path ≠ "-")) :
    ∃ phase result printed, Ends options desk phase result printed ∧
      (Phase.readSource ≤ phase → options.inputFile? ≠ none) := by
  cases found : foundSettings options desk with
  | error failure =>
      obtain ⟨phase, result, printed, ends, unread⟩ := exists_ends_of_noSettings found
      exact ⟨phase, result, printed, ends, fun late => absurd late unread⟩
  | ok settings =>
      rcases early with ⟨failure, bad⟩ | dry | ⟨path, given, other⟩
      · rw [settings_eq, found] at bad
        cases bad
      · exact ⟨_, _, _, .dryRun found dry, fun late => absurd late (by decide)⟩
      · obtain ⟨phase, result, printed, ends⟩ := exists_ends options desk
        refine ⟨phase, result, printed, ends, fun _ => ?_⟩
        unfold Options.inputFile?
        rw [given, Option.filter_some, if_pos (decide_eq_true other)]
        exact Option.some_ne_none path

end Alike

/-- **The first failure decides.** Every run ends in a phase, those before having succeeded, with the
result and the output that this phase gives, and a world that looks alike to the phases up to that
one gets the same answer. So standard input is not read and does not matter where the settings are
bad, in a dry run and where the source is another file; a source that is no JSON is refused as such
whatever the pointer and the filter are; a pointer that leads nowhere is refused whatever the filter
is; and a selected document that is no object is refused, with no output and no file changed. -/
theorem first_failure_decides [FilterLibrary] (options : Options) (world : World) :
    (∃ phase result printed, Ends options world.desk phase result printed) ∧
    (∀ phase result printed, Ends options world.desk phase result printed →
      (answer options world).result = result ∧ (answer options world).output = printed ∧
        ∀ other, (∀ earlier, earlier ≤ phase → LooksAlike options earlier world other) →
          answer options other = answer options world) ∧
    ((∃ failure, ((settings (m := StateM Desk) options).run world.desk).1 = .error failure) ∨
        options.dryRun = true ∨ (∃ path, options.input = some path ∧ path ≠ "-") →
      (answer options world).inputRead = .empty ∧
        ∀ input, answer options { world with input } = answer options world) ∧
    ∀ settings source, Reads options world.desk settings source →
      (∀ error, Json.parse source = .error error → ∀ pointer filter,
        (answer { options with pointer, filter } world).result =
          .error (.refused (.notJson error))) ∧
      (∀ document pointer, Json.parse source = .ok document → document.pointed? pointer = none →
        ∀ filter, (answer { options with pointer := some pointer, filter } world).result =
          .error (.refused (.pointsNowhere pointer))) ∧
      ∀ document, options.select source = .ok document → (∀ members, document ≠ .object members) →
        (answer options world).result = .error (.refused (.rootNotObject document.kindName)) ∧
          (answer options world).output = "" ∧
          ((run (m := StateM Desk) options).run world.desk).2.files = world.files := by
  refine ⟨exists_ends options world.desk, ?_, ?_, ?_⟩
  · intro phase result printed ends
    exact ⟨by rw [ends.answer_eq], by rw [ends.answer_eq], fun other => ends.answer_congr⟩
  · intro early
    obtain ⟨phase, result, printed, ends, unread⟩ := exists_ends_of_early early
    exact ends.input_unread unread
  · intro settings source reads
    refine ⟨?_, ?_, ?_⟩
    · intro error bad pointer filter
      have same : Reads { options with pointer, filter } world.desk settings source :=
        ⟨⟨reads.found, reads.wet⟩, reads.read⟩
      rw [(Ends.parse same bad).answer_eq]
    · intro document pointer parsed nowhere filter
      have same : Reads { options with pointer := some pointer, filter } world.desk settings source :=
        ⟨⟨reads.found, reads.wet⟩, reads.read⟩
      rw [(Ends.point same parsed rfl nowhere).answer_eq]
    · intro document selected other
      rw [(Ends.checkObject reads selected other).answer_eq]
      refine ⟨rfl, rfl, ?_⟩
      have failed : foundModule options settings world.desk =
          .error (.rootNotObject document.kindName) := by
        rw [reads.foundModule_eq, selected]
        exact render_of_other other _
      rw [run_of_noModule reads.found reads.wet failed]
      obtain ⟨-, files, -⟩ := afterSettings_keeps options world.desk
      obtain ⟨-, kept, -⟩ := afterSource_keeps options (afterSettings options world.desk)
      exact kept.trans files

end ModelScribe.Run

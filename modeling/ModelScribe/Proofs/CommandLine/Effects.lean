import Mathlib.Data.List.Basic
import ModelScribe.Proofs.CommandLine.Delivery

/-! # The effects of a run

A run that is refused and a dry run leave files and output alone, and any other run
that succeeds writes its module once (`ModelScribe.Run.effects_of_run`).
-/

namespace ModelScribe

namespace Run

section Whole

variable [FilterLibrary]

/-- A run with its messages prints and changes what the run does, and its exit code says whether
that succeeded. -/
theorem execute_eq {arguments : List String} {options : Options}
    (parsed : Options.ofArguments arguments = .ok options) (desk : Desk) :
    execute (m := StateM Desk) arguments desk =
      match (run (m := StateM Desk) options).run desk with
      | (.ok (), after) => (0, after)
      | (.error failure, after) =>
          (1, { after with reports := after.reports ++ errorLine failure }) := by
  unfold execute
  rw [parsed]
  show StateT.bind (run (m := StateM Desk) options).run _ desk = _
  unfold StateT.bind
  rcases (run (m := StateM Desk) options).run desk with ⟨result, after⟩
  cases result <;> rfl

/-- A module is made of a source that parses, a document selected from it and its rendering. -/
theorem foundModule_eq_ok {options : Options} {settings : Settings} {desk : Desk} {text : String}
    (found : foundModule options settings desk = .ok text) :
    ∃ source document, foundSource options desk = .ok source ∧
      options.select source = .ok document ∧ settings.render desk.clock document = .ok text := by
  obtain ⟨source, read, selected⟩ := bind_eq_ok.mp found
  obtain ⟨document, select, render⟩ := bind_eq_ok.mp selected
  exact ⟨source, document, read, select, render⟩

/-- A run that is refused ends before its delivery. -/
theorem effects_of_refused {options : Options} {desk : Desk} {failure : Failure}
    (refused : ((run (m := StateM Desk) options).run desk).1 = .error (.refused failure)) :
    let after := ((run (m := StateM Desk) options).run desk).2
    after.output = desk.output ∧ after.files = desk.files := by
  obtain ⟨output, files, -⟩ := afterSettings_keeps options desk
  obtain ⟨printed, kept, -⟩ := afterSource_keeps options (afterSettings options desk)
  cases found : foundSettings options desk with
  | error failure =>
      rw [run_of_noSettings found]
      exact ⟨output, files⟩
  | ok settings =>
      cases dry : options.dryRun with
      | true =>
          rw [run_of_dryRun found dry]
          exact ⟨output, files⟩
      | false =>
          cases made : foundModule options settings desk with
          | error failure =>
              rw [run_of_noModule found dry made]
              exact ⟨printed.trans output, kept.trans files⟩
          | ok text =>
              -- the delivery is never refused
              rw [run_of_module found dry made] at refused
              cases given : options.output with
              | none =>
                  rw [deliver_none given] at refused
                  cases refused
              | some path => exact absurd refused ((deliver_effects given _ _).2.1 failure)

/-- A dry run that succeeds has read the settings file and nothing else. -/
theorem effects_of_dryRun {options : Options} {desk : Desk}
    (ran : ((run (m := StateM Desk) options).run desk).1 = .ok ()) (dry : options.dryRun = true) :
    let after := ((run (m := StateM Desk) options).run desk).2
    after.output = desk.output ∧ after.files = desk.files ∧ after.inputUsed = desk.inputUsed ∧
      after.filesRead = desk.filesRead ++ options.settingsFile.toList := by
  obtain ⟨output, files, -, used, filesRead⟩ := afterSettings_keeps options desk
  cases found : foundSettings options desk with
  | error failure =>
      rw [run_of_noSettings found] at ran
      cases ran
  | ok settings =>
      rw [run_of_dryRun found dry]
      exact ⟨output, files, used, filesRead⟩

/-- A run that succeeds and is no dry run has found settings and a module. -/
theorem exists_of_run_eq_ok {options : Options} {desk : Desk}
    (ran : ((run (m := StateM Desk) options).run desk).1 = .ok ()) (wet : options.dryRun = false) :
    ∃ settings text, foundSettings options desk = .ok settings ∧
      foundModule options settings desk = .ok text := by
  cases found : foundSettings options desk with
  | error failure =>
      rw [run_of_noSettings found] at ran
      cases ran
  | ok settings =>
      cases made : foundModule options settings desk with
      | error failure =>
          rw [run_of_noModule found wet made] at ran
          cases ran
      | ok text => exact ⟨settings, text, rfl, made⟩

/-- A module that is made is printed, or delivered where the run succeeds. -/
theorem effects_of_module {options : Options} {settings : Settings} {desk : Desk} {text : String}
    (found : foundSettings options desk = .ok settings) (wet : options.dryRun = false)
    (made : foundModule options settings desk = .ok text) :
    let outcome := (run (m := StateM Desk) options).run desk
    (options.output = none →
      outcome.2.output = desk.output ++ (text ++ "\n") ∧ outcome.2.files = desk.files) ∧
    ∀ path, options.output = some path →
      outcome.2.output = desk.output ∧ (outcome.1 = .ok () →
        desk.files.Delivered desk.workingDirectory path (text ++ "\n").toUTF8 outcome.2.files) := by
  obtain ⟨output, files, base, -⟩ := afterSettings_keeps options desk
  obtain ⟨printed, kept, stays⟩ := afterSource_keeps options (afterSettings options desk)
  rw [run_of_module found wet made]
  constructor
  · intro given
    rw [deliver_none given]
    exact ⟨congrArg (· ++ (text ++ "\n")) (printed.trans output), kept.trans files⟩
  · intro path given
    obtain ⟨silent, -, delivered⟩ := deliver_effects given (text ++ "\n")
      (afterSource options (afterSettings options desk))
    rw [kept, files, stays, base] at delivered
    exact ⟨silent.trans (printed.trans output), delivered⟩

/-- **Effects.** A run that is refused prints nothing and changes no file, and no more does a dry
run that succeeds, which has read only the settings file. Any other run that succeeds writes the
rendered document and one line feed: to standard output, or to the output file and no other, only
directories that contain it having been created. The exit code is zero where the run succeeds, and
one where it fails. -/
theorem effects_of_run (options : Options) (desk : Desk) :
    let outcome := (run (m := StateM Desk) options).run desk
    let result := outcome.1
    let after := outcome.2
    (∀ failure, result = .error (.refused failure) →
      after.output = desk.output ∧ after.files = desk.files) ∧
    (result = .ok () → options.dryRun = true →
      after.output = desk.output ∧ after.files = desk.files ∧
        after.inputUsed = desk.inputUsed ∧
        after.filesRead = desk.filesRead ++ options.settingsFile.toList) ∧
    (result = .ok () → options.dryRun = false →
      ∃ found source document text,
        ((settings (m := StateM Desk) options).run desk).1 = .ok found ∧
        ((Run.source (m := StateM Desk) options).run desk).1 = .ok source ∧
        options.select source = .ok document ∧
        found.render desk.clock document = .ok text ∧
        (options.output = none →
          after.output = desk.output ++ (text ++ "\n") ∧ after.files = desk.files) ∧
        ∀ path, options.output = some path →
          after.output = desk.output ∧
            desk.files.Delivered desk.workingDirectory path (text ++ "\n").toUTF8 after.files) ∧
    ∀ arguments, Options.ofArguments arguments = .ok options →
      let executed := execute (m := StateM Desk) arguments desk
      (executed.1 = 0 ↔ result = .ok ()) ∧ (executed.1 = 1 ↔ ∃ failure, result = .error failure) ∧
        executed.2.output = after.output ∧ executed.2.files = after.files := by
  intro outcome result after
  refine ⟨fun failure refused => effects_of_refused refused,
    fun ran dry => effects_of_dryRun ran dry, ?_, ?_⟩
  · intro ran wet
    obtain ⟨found, text, settled, made⟩ := exists_of_run_eq_ok ran wet
    obtain ⟨source, document, read, select, render⟩ := foundModule_eq_ok made
    obtain ⟨printed, delivered⟩ := effects_of_module settled wet made
    refine ⟨found, source, document, text, ?_, ?_, select, render, printed, ?_⟩
    · rw [settings_eq, settled]
      rfl
    · rw [source_eq, read]
      rfl
    · intro path given
      obtain ⟨silent, written⟩ := delivered path given
      exact ⟨silent, written ran⟩
  · intro arguments parsed executed
    have whole : executed = _ := execute_eq parsed desk
    rw [whole]
    unfold result after outcome
    rcases (run (m := StateM Desk) options).run desk with ⟨result, after⟩
    cases result with
    | ok done => simp
    | error failure => simp

end Whole

/-- The module of an empty object, delivered to a directory that has to be made. -/
theorem effects_of_run_newDirectory :
    let desk : Desk := { files := .empty, input := "\x7b\x7d".toUTF8,
                         clock := ⟨2024, 2, 29, 23, 59, 59, 0, by decide, by decide⟩ }
    let options : Options := { output := some "out/model.ts" }
    let outcome := (run (m := StateM Desk) options).run desk
    let text := String.intercalate "\n"
      ["/**", " * Copyright 2024 jsonmodel-js", " * Auto-generated: 2024/02/29 23:59:59", " *",
        " * @author jsonmodel-gen", " */", "", "import JsonModel from 'jsonmodel-js/esm';", "",
        "const jsonModel = new JsonModel.define(\x7b\x7d);", "", "export default jsonModel;"]
    outcome.1 = .ok () ∧ outcome.2.output = "" ∧
      FileTree.Delivered [] "out/model.ts" (text ++ "\n").toUTF8 .empty outcome.2.files := by
  intro desk options outcome text
  have ran : outcome.1 = .ok () := by decide +kernel
  obtain ⟨-, -, written, -⟩ := effects_of_run options desk
  obtain ⟨found, source, document, made, settled, read, select, render, -, delivers⟩ :=
    written ran rfl
  obtain ⟨silent, delivered⟩ := delivers _ rfl
  obtain rfl : Settings.resolve options {} = found := Except.ok.inj settled
  obtain rfl : "\x7b\x7d" = source := Except.ok.inj (Eq.trans (by decide +kernel) read)
  obtain rfl : Json.object [] = document := Except.ok.inj (Eq.trans (by decide +kernel) select)
  obtain rfl : text = made := Except.ok.inj (Eq.trans (by decide +kernel) render)
  exact ⟨ran, silent, delivered⟩

end Run

end ModelScribe

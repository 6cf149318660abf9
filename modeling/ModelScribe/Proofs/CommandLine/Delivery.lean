import ModelScribe.Proofs.CommandLine.Stages
import ModelScribe.Proofs.Files.Changes

/-! # The delivery of a module

The last stage of a run makes the directory of the output file and writes the file, or prints
(`ModelScribe.Run.deliver_some`, `ModelScribe.Run.deliver_none`).

* `ModelScribe.Run.deliver_effects`: what a delivery to a file changes.
* `ModelScribe.Run.deliver_congr`: what its result depends on.
-/

namespace ModelScribe

open ModelScribe.Path

/-- A file has been written, the directories that contain it have been created where they were
missing, and nothing else has changed. -/
structure FileTree.Delivered (base : List String) (path : String) (content : ByteArray)
    (before after : FileTree) : Prop where
  read : after.read base path = .ok content
  written : after.entryAt? (place base path) = some (.file content)
  others : ∀ names, names ≠ place base path →
    after.entryAt? names = before.entryAt? names ∨
      before.entryAt? names = none ∧ after.entryAt? names = some .directory ∧
        ∃ directory, parent? path = some directory ∧ LeadsThrough base directory names

namespace Run

/-- Without an output file, the module is printed. -/
theorem deliver_none {options : Options} (given : options.output = none) (text : String)
    (desk : Desk) :
    (deliver (m := StateM Desk) options text).run desk =
      (.ok (), { desk with output := desk.output ++ text }) := by
  unfold deliver
  rw [given]
  rfl

/-- The outcome of making the directory of a file, if its path has one. -/
def parentMade (path : String) (desk : Desk) : Except RunFailure Unit × Desk :=
  match (Path.parent? path).filter (· ≠ "") with
  | none => (.ok (), desk)
  | some directory =>
      let (result, after) := desk.createDirectories directory
      (result.mapError (.notCreated directory), after)

/-- With an output file, its directory is made and then the file is written. -/
theorem deliver_some {options : Options} {path : String} (given : options.output = some path)
    (text : String) (desk : Desk) :
    (deliver (m := StateM Desk) options text).run desk =
      match parentMade path desk with
      | (.ok (), made) =>
          let (result, after) := made.writeFile path text
          (result.mapError (.notWritten path), after)
      | (.error failure, made) => (.error failure, made) := by
  unfold deliver parentMade
  rw [given]
  dsimp only
  split
  · next none => rw [none]; rfl
  · next empty => rw [empty]; rfl
  · next directory some contained =>
      have nonempty : directory ≠ "" := some
      rw [contained, Option.filter_some, if_pos (decide_eq_true nonempty), run_bind,
        createDirectories_eq]
      dsimp only
      cases (desk.createDirectories directory).1 with
      | error problem => rfl
      | ok made => exact writeFile_eq ..

/-- Delivering to a file changes files and nothing else. -/
theorem exists_parentMade (path : String) (desk : Desk) :
    ∃ files, (parentMade path desk).2 = { desk with files } := by
  unfold parentMade
  split
  · exact ⟨desk.files, rfl⟩
  · exact ⟨_, rfl⟩

theorem parentMade_workingDirectory (path : String) (desk : Desk) :
    (parentMade path desk).2.workingDirectory = desk.workingDirectory := by
  obtain ⟨files, after⟩ := exists_parentMade path desk
  rw [after]

theorem exists_deliver_some {options : Options} {path : String}
    (given : options.output = some path) (text : String) (desk : Desk) :
    ∃ files, ((deliver (m := StateM Desk) options text).run desk).2 = { desk with files } := by
  rw [deliver_some given]
  obtain ⟨files, after⟩ := exists_parentMade path desk
  rcases whole : parentMade path desk with ⟨result, made⟩
  rw [whole] at after
  obtain rfl : made = { desk with files } := after
  cases result with
  | error failure => exact ⟨files, rfl⟩
  | ok done =>
      dsimp only
      unfold Desk.writeFile
      split
      · next written writes => exact ⟨written, rfl⟩
      · exact ⟨files, rfl⟩

/-- Making the directory of a file creates only what the path of that directory leads through. -/
theorem parentMade_grows (path : String) (desk : Desk) :
    desk.files.Grows (fun names => ∃ directory, parent? path = some directory ∧
      LeadsThrough desk.workingDirectory directory names) (parentMade path desk).2.files := by
  unfold parentMade
  cases contained : (parent? path).filter (· ≠ "") with
  | none => exact .refl _ _
  | some directory =>
      have own : parent? path = some directory := (Option.filter_eq_some_iff.mp contained).1
      have grows := FileTree.grows_createDirectories desk.workingDirectory directory desk.files
      exact grows.weaken fun names through => ⟨directory, own, through⟩

theorem parentMade_not_refused (path : String) (desk : Desk) (failure : Failure) :
    (parentMade path desk).1 ≠ .error (.refused failure) := by
  intro refused
  unfold parentMade at refused
  split at refused
  · cases refused
  · next directory contained =>
      dsimp only at refused
      cases made : (desk.createDirectories directory).1 with
      | error problem =>
          rw [made] at refused
          cases refused
      | ok done =>
          rw [made] at refused
          cases refused

/-- A delivery to a file prints nothing and is never refused, and where it succeeds the file has been
delivered. -/
theorem deliver_effects {options : Options} {path : String} (given : options.output = some path)
    (text : String) (desk : Desk) :
    let outcome := (deliver (m := StateM Desk) options text).run desk
    outcome.2.output = desk.output ∧ (∀ failure, outcome.1 ≠ .error (.refused failure)) ∧
      (outcome.1 = .ok () →
        desk.files.Delivered desk.workingDirectory path text.toUTF8 outcome.2.files) := by
  intro outcome
  have grows := parentMade_grows path desk
  have stays := parentMade_workingDirectory path desk
  have unrefused := parentMade_not_refused path desk
  have output : outcome.2.output = desk.output := by
    obtain ⟨files, after⟩ := exists_deliver_some given text desk
    rw [after]
  have whole : outcome = _ := deliver_some given text desk
  refine ⟨output, ?_⟩
  rw [whole]
  rcases made : parentMade path desk with ⟨result, after⟩
  rw [made] at grows stays unrefused
  dsimp only at grows stays unrefused
  cases result with
  | error failure => exact ⟨unrefused, (fun done => by cases done)⟩
  | ok done =>
      dsimp only
      unfold Desk.writeFile
      rw [stays]
      cases writes : after.files.write desk.workingDirectory path text.toUTF8 with
      | error problem => exact ⟨(fun failure same => by cases same), (fun done => by cases done)⟩
      | ok written =>
          obtain ⟨own, others, read⟩ := FileTree.write_eq_ok writes
          refine ⟨(fun failure same => by cases same), fun _ => ⟨read, own, ?_⟩⟩
          intro names apart
          rw [others names apart]
          exact grows names

section Alike

variable {desk other : Desk} {path : String} (base : desk.workingDirectory = other.workingDirectory)
  (alike : FileTree.Alike (LeadsThrough desk.workingDirectory path) desk.files other.files)

include base alike

/-- The directory of a file is made alike in trees that are alike on the way. -/
theorem parentMade_congr :
    (parentMade path desk).1 = (parentMade path other).1 ∧
      FileTree.Alike (LeadsThrough desk.workingDirectory path) (parentMade path desk).2.files
        (parentMade path other).2.files := by
  unfold parentMade
  cases contained : (parent? path).filter (· ≠ "") with
  | none => exact ⟨rfl, alike⟩
  | some directory =>
      have own : parent? path = some directory := (Option.filter_eq_some_iff.mp contained).1
      obtain ⟨result, made⟩ := alike.createDirectoriesWithin
        (fun names through => LeadsThrough.of_parent own through) (directory.length + 1)
      unfold Desk.createDirectories FileTree.createDirectories
      rw [← base]
      exact ⟨congrArg (Except.mapError (RunFailure.notCreated directory)) result, made⟩

/-- A file is written to places that are alike with the same result. -/
theorem writeFile_congr (text : String) :
    (desk.writeFile path text).1 = (other.writeFile path text).1 := by
  have results := alike.write (fun _ through => through) text.toUTF8
  unfold Desk.writeFile
  rw [← base]
  generalize desk.files.write desk.workingDirectory path text.toUTF8 = result at results
  generalize other.files.write desk.workingDirectory path text.toUTF8 = otherResult at results
  cases results <;> rfl

end Alike

/-- Whether a delivery succeeds depends on the directories on the way to the output file alone. -/
theorem deliver_congr {options : Options} {desk other : Desk} (text : String)
    (alike : ∀ path, options.output = some path →
      desk.workingDirectory = other.workingDirectory ∧
        FileTree.Alike (LeadsThrough desk.workingDirectory path) desk.files other.files) :
    ((deliver (m := StateM Desk) options text).run desk).1 =
      ((deliver (m := StateM Desk) options text).run other).1 := by
  cases given : options.output with
  | none => rw [deliver_none given, deliver_none given]
  | some path =>
      obtain ⟨base, trees⟩ := alike path given
      obtain ⟨same, grown⟩ := parentMade_congr base trees
      have stays := parentMade_workingDirectory path
      rw [← stays desk] at grown
      have written := writeFile_congr ((stays desk).trans (base.trans (stays other).symm)) grown text
      rw [deliver_some given, deliver_some given]
      generalize parentMade path desk = outcome at same written
      generalize parentMade path other = otherOutcome at same written
      rcases outcome with ⟨result, made⟩
      rcases otherOutcome with ⟨otherResult, otherMade⟩
      obtain rfl : result = otherResult := same
      cases result with
      | error failure => rfl
      | ok done => exact congrArg (Except.mapError (RunFailure.notWritten path)) written

end Run

end ModelScribe

import ModelScribe.CommandLine.Run
import Std.Time.Zoned

/-! # The program

The run of the command line, on the files, the input and the clock of the machine.
-/

namespace ModelScribe

/-- A problem of the machine in the library's terms. -/
def FileProblem.ofError : IO.Error → FileProblem
  | .noFileOrDirectory .. | .noSuchThing .. => .notFound
  | .alreadyExists .. => .alreadyExists
  | .inappropriateType _ _ details =>
      if details = "is a directory" then .isADirectory else .notADirectory
  | error => .other (toString error)

/-- An action with its problem as a result. -/
def attempted {α : Type} (action : IO α) : IO (Except FileProblem α) := do
  try return .ok (← action) catch error => return .error (.ofError error)

/-- The text of bytes, if they are text. -/
def textOf (bytes : ByteArray) : Except FileProblem String :=
  match String.fromUTF8? bytes with
  | some text => .ok text
  | none => .error .notText

/-- The stamp of a local time. -/
def stampOf (time : Std.Time.PlainDateTime) : Stamp :=
  (Stamp.of? time.date.year.toInt time.date.month.val.toNat time.date.day.val.toNat
    time.time.hour.val.toNat time.time.minute.val.toNat time.time.second.val.toNat
    time.time.nanosecond.val.toNat).getD
    ⟨1970, 1, 1, 0, 0, 0, 0, by decide, by decide⟩

instance : Host IO where
  readFile path := do
    return (← attempted (IO.FS.readBinFile path)).bind textOf
  readInput := do
    return (← attempted (do (← IO.getStdin).readBinToEnd)).bind textOf
  createDirectories path := attempted (IO.FS.createDirAll path)
  writeFile path content := attempted (IO.FS.writeFile path content)
  print text := do
    let output ← IO.getStdout
    output.putStr text
    output.flush
  report text := do (← IO.getStderr).putStr text
  now := do return stampOf (← Std.Time.PlainDateTime.now)

end ModelScribe

/-- Runs a command line. -/
def main (arguments : List String) : IO UInt32 := do
  return (← ModelScribe.Run.execute arguments).toUInt32

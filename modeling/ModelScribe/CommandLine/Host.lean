import ModelScribe.Files.Tree
import ModelScribe.Stamp

/-! # Hosts

* `Host`: what a run asks of its surroundings.
* `Desk`: surroundings as a value: a file tree, an input, a clock, and what has been read and
  written.
-/

namespace ModelScribe

/-- What a run asks of its surroundings. -/
class Host (m : Type → Type) where
  /-- The text of a file. -/
  readFile : (path : String) → m (Except FileProblem String)
  /-- The text of standard input, to its end. -/
  readInput : m (Except FileProblem String)
  /-- Makes a directory and all that contain it. -/
  createDirectories : (path : String) → m (Except FileProblem Unit)
  /-- Creates or replaces a file. -/
  writeFile : (path content : String) → m (Except FileProblem Unit)
  /-- Writes to standard output. -/
  print : (text : String) → m Unit
  /-- Writes to standard error. -/
  report : (text : String) → m Unit
  /-- The local time. -/
  now : m Stamp

/-- Surroundings as a value. -/
structure Desk where
  files : FileTree
  /-- The names that lead to the working directory. -/
  workingDirectory : List String := []
  input : ByteArray
  /-- Some of the input has been read. -/
  inputUsed : Bool := false
  /-- The paths of the files that have been read, in order. -/
  filesRead : List String := []
  output : String := ""
  reports : String := ""
  clock : Stamp

namespace Desk

/-- The text of a file. -/
def readFile (path : String) (desk : Desk) : Except FileProblem String × Desk :=
  (desk.files.readText desk.workingDirectory path,
    { desk with filesRead := desk.filesRead ++ [path] })

/-- The text of the input. -/
def readInput (desk : Desk) : Except FileProblem String × Desk :=
  let text := match String.fromUTF8? desk.input with
    | some text => .ok text
    | none => .error .notText
  (text, { desk with inputUsed := desk.inputUsed || !desk.input.isEmpty })

/-- Makes a directory and all that contain it, as far as they can be made. -/
def createDirectories (path : String) (desk : Desk) : Except FileProblem Unit × Desk :=
  let (result, files) := desk.files.createDirectories desk.workingDirectory path
  (result, { desk with files })

/-- Creates or replaces a file. -/
def writeFile (path content : String) (desk : Desk) : Except FileProblem Unit × Desk :=
  match desk.files.write desk.workingDirectory path content.toUTF8 with
  | .ok files => (.ok (), { desk with files })
  | .error problem => (.error problem, desk)

instance : Host (StateM Desk) where
  readFile := readFile
  readInput := readInput
  createDirectories := createDirectories
  writeFile := writeFile
  print text := fun desk => ((), { desk with output := desk.output ++ text })
  report text := fun desk => ((), { desk with reports := desk.reports ++ text })
  now := fun desk => (desk.clock, desk)

end Desk

end ModelScribe

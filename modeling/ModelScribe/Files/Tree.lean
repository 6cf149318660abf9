import ModelScribe.Files.Path
import ModelScribe.Files.Problem

/-! # File trees

A tree of named files and directories. A path that starts with a slash starts at the root of the
tree, any other at the working directory, which is given by the names that lead to it.

* `FileTree.read`: the bytes of a file.
* `FileTree.write`: the tree with a file created or replaced.
* `FileTree.createDirectories`: the tree with a directory and all that contain it, as far as they can
  be created.
-/

namespace ModelScribe

/-- A file or a directory. -/
inductive FileTree
  | file (content : ByteArray)
  | directory (entries : List (String × FileTree))

namespace FileTree

/-- The directory without entries. -/
def empty : FileTree := directory []

/-- A file tree is a directory. -/
def isDirectory : FileTree → Bool
  | directory _ => true
  | file _ => false

/-- The entry of a name. -/
def entry? (name : String) : FileTree → Option FileTree
  | directory entries => entries.lookup name
  | file _ => none

/-- The tree below a list of names. -/
def find? : (names : List String) → FileTree → Option FileTree
  | [], tree => some tree
  | name :: names, tree => (tree.entry? name).bind (find? names)

/-- The entries with one of them replaced or added at the end. -/
def putEntry (name : String) (tree : FileTree) : List (String × FileTree) → List (String × FileTree)
  | [] => [(name, tree)]
  | entry :: entries =>
      if entry.1 = name then (name, tree) :: entries else entry :: putEntry name tree entries

/-- The tree with another tree below a list of names, directories filled in on the way. -/
def put : (names : List String) → FileTree → (placed : FileTree) → FileTree
  | [], _, placed => placed
  | name :: names, directory entries, placed =>
      directory (putEntry name (put names ((entries.lookup name).getD empty) placed) entries)
  | name :: names, file _, placed => directory [(name, put names empty placed)]

/-- The longest name, in bytes. -/
def longestName : Nat := 255

/-- Follows one part of a path from the directory below a list of names. -/
def follow (tree : FileTree) (here : List String) (step : String) :
    Except FileProblem (List String) :=
  match tree.find? here with
  | none => .error .notFound
  | some (file _) => .error .notADirectory
  | some (directory entries) =>
      if step = "" ∨ step = "." then .ok here
      else if step = ".." then .ok here.dropLast
      else if longestName < step.utf8ByteSize then .error .nameTooLong
      else if (entries.lookup step).isSome then .ok (here ++ [step])
      else .error .notFound

/-- Follows the parts of a path from the directory where the path starts. -/
def walk (base : List String) (path : String) (steps : List String) (tree : FileTree) :
    Except FileProblem (List String) :=
  if path.toList.contains '\x00' then .error .nulInName
  else if path.isEmpty then .error .notFound
  else steps.foldlM tree.follow (Path.start base path)

/-- The names that a path leads along. -/
def resolve (base : List String) (path : String) (tree : FileTree) :
    Except FileProblem (List String) :=
  tree.walk base path (Path.steps path)

/-- Whether a path leads to a directory. -/
def hasDirectory (base : List String) (path : String) (tree : FileTree) : Bool :=
  match tree.resolve base path with
  | .ok names => ((tree.find? names).map isDirectory).getD false
  | .error _ => false

/-- The bytes of the file that a path leads to. -/
def read (base : List String) (path : String) (tree : FileTree) :
    Except FileProblem ByteArray := do
  match tree.find? (← tree.resolve base path) with
  | some (file content) => return content
  | some (directory _) => throw .isADirectory
  | none => throw .notFound

/-- The text of the file that a path leads to. -/
def readText (base : List String) (path : String) (tree : FileTree) :
    Except FileProblem String := do
  match String.fromUTF8? (← tree.read base path) with
  | some text => return text
  | none => throw .notText

/-- The last part of a path behind the names that contain it; `none` where the path ends with a
slash or in a dot. -/
def locate (base : List String) (path : String) (tree : FileTree) :
    Except FileProblem (List String × Option String) := do
  let steps := Path.steps path
  let last := steps.getLast?.getD ""
  let here ← tree.walk base path steps.dropLast
  let _ ← tree.follow here ""
  if last = "" ∨ last = "." ∨ last = ".." then return (here, none)
  else if longestName < last.utf8ByteSize then throw .nameTooLong
  else return (here, some last)

/-- The tree with a file created or replaced; the directory that contains it must be there. -/
def write (base : List String) (path : String) (content : ByteArray) (tree : FileTree) :
    Except FileProblem FileTree := do
  match ← tree.locate base (Path.unslashed path) with
  | (_, none) => throw .isADirectory
  | (here, some name) =>
      let names := here ++ [name]
      if Path.unslashed path ≠ path ∨ ((tree.find? names).map isDirectory).getD false then
        throw .isADirectory
      else return tree.put names (file content)

/-- The tree with one more directory; what contains it must be there. -/
def createDirectory (base : List String) (path : String) (tree : FileTree) :
    Except FileProblem FileTree := do
  match ← tree.locate base (Path.unslashed path) with
  | (_, none) => throw .alreadyExists
  | (here, some name) =>
      let names := here ++ [name]
      if (tree.find? names).isSome then throw .alreadyExists
      else return tree.put names empty

/-- Creates a directory, which may be there already. -/
def makeDirectory (base : List String) (path : String) (tree : FileTree) :
    Except FileProblem Unit × FileTree :=
  match tree.createDirectory base path with
  | .ok created => (.ok (), created)
  | .error problem => (if tree.hasDirectory base path then .ok () else .error problem, tree)

/-- Creates a directory and all that contain it, outermost first, up to the first one that cannot be
created; each is shorter than the last, so the length of the path is enough fuel. -/
def createDirectoriesWithin (base : List String) : (fuel : Nat) → (path : String) → FileTree →
    Except FileProblem Unit × FileTree
  | 0, _, tree => (.error .notFound, tree)
  | fuel + 1, path, tree =>
      if path.isEmpty then (.ok (), tree)
      else
        match tree.createDirectory base path, Path.parent? path with
        | .error .notFound, none => (.error .notFound, tree)
        | .error .notFound, some parent =>
            match createDirectoriesWithin base fuel parent tree with
            | (.ok (), tree) => tree.makeDirectory base path
            | failed => failed
        | _, _ => tree.makeDirectory base path

/-- Creates a directory and all that contain it. -/
def createDirectories (base : List String) (path : String) (tree : FileTree) :
    Except FileProblem Unit × FileTree :=
  createDirectoriesWithin base (path.length + 1) path tree

end FileTree

end ModelScribe

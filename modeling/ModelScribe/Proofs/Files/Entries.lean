import ModelScribe.Files.Tree

/-! # The entries of a file tree

A file tree seen as what stands at each list of names
(`ModelScribe.FileTree.entryAt?`). Putting a file or an empty directory into a
directory changes the entry at one place only
(`ModelScribe.FileTree.entryAt?_put`).
-/

namespace ModelScribe

/-- What stands at a place of a file tree. -/
inductive Entry
  | file (content : ByteArray)
  | directory

namespace Entry

def isDirectory : Entry → Bool
  | directory => true
  | file _ => false

end Entry

namespace FileTree

def toEntry : FileTree → Entry
  | file content => .file content
  | directory _ => .directory

/-- What stands at a list of names. -/
def entryAt? (names : List String) (tree : FileTree) : Option Entry :=
  (tree.find? names).map toEntry

/-- Whether a directory stands at a list of names, if anything does. -/
def directoryAt? (names : List String) (tree : FileTree) : Option Bool :=
  (tree.entryAt? names).map Entry.isDirectory

/-- Whether a directory stands at a place is said by what is found there. -/
theorem directoryAt?_eq (names : List String) (tree : FileTree) :
    directoryAt? names tree = (tree.find? names).map isDirectory := by
  have same : Entry.isDirectory ∘ toEntry = isDirectory := by
    funext tree
    cases tree <;> rfl
  rw [directoryAt?, entryAt?, Option.map_map, same]

/-- A directory stands where the entry is one. -/
theorem directoryAt?_eq_some_true {names : List String} {tree : FileTree} :
    directoryAt? names tree = some true ↔ tree.entryAt? names = some .directory := by
  rw [directoryAt?]
  cases tree.entryAt? names with
  | none => simp
  | some entry => cases entry <;> simp [Entry.isDirectory]

/-- The entry of a place is a directory exactly if a directory is found there. -/
theorem entryAt?_eq_directory {names : List String} {tree : FileTree} :
    tree.entryAt? names = some .directory ↔
      ∃ entries, tree.find? names = some (directory entries) := by
  rw [entryAt?, Option.map_eq_some_iff]
  constructor
  · rintro ⟨found, place, same⟩
    cases found with
    | file content => cases same
    | directory entries => exact ⟨entries, place⟩
  · rintro ⟨entries, place⟩
    exact ⟨_, place, rfl⟩

/-- The entry of a place is a file exactly if that file is found there. -/
theorem entryAt?_eq_file {names : List String} {tree : FileTree} {content : ByteArray} :
    tree.entryAt? names = some (.file content) ↔ tree.find? names = some (file content) := by
  rw [entryAt?, Option.map_eq_some_iff]
  constructor
  · rintro ⟨found, place, same⟩
    cases found with
    | file content => rw [place, Entry.file.inj same]
    | directory entries => cases same
  · intro place
    exact ⟨_, place, rfl⟩

/-- What lies at a long path is found from what lies on the way. -/
theorem find?_append (first second : List String) (tree : FileTree) :
    tree.find? (first ++ second) = (tree.find? first).bind (find? second) := by
  induction first generalizing tree with
  | nil => rfl
  | cons name names ih =>
      rw [List.cons_append, find?, find?]
      cases tree.entry? name with
      | none => rfl
      | some below => exact ih below

/-- What lies in a directory is found under its name. -/
theorem find?_concat {here : List String} {entries : List (String × FileTree)} {tree : FileTree}
    (found : tree.find? here = some (directory entries)) (name : String) :
    tree.find? (here ++ [name]) = entries.lookup name := by
  rw [find?_append, found]
  show (entries.lookup name).bind (find? []) = entries.lookup name
  cases entries.lookup name <;> rfl

/-- The first entry of a name is the one looked up. -/
theorem lookup_cons_eq_ite (first other : String) (tree : FileTree)
    (entries : List (String × FileTree)) :
    ((first, tree) :: entries).lookup other =
      if other = first then some tree else entries.lookup other := by
  rw [List.lookup_cons]
  by_cases same : other = first
  · rw [if_pos same, beq_iff_eq.mpr same]
  · rw [if_neg same, beq_eq_false_iff_ne.mpr same]

/-- An entry that is put is looked up under its name, and the others stay. -/
theorem lookup_putEntry (name other : String) (placed : FileTree)
    (entries : List (String × FileTree)) :
    (putEntry name placed entries).lookup other =
      if other = name then some placed else entries.lookup other := by
  induction entries with
  | nil => rw [putEntry, lookup_cons_eq_ite]
  | cons entry entries ih =>
      obtain ⟨first, tree⟩ := entry
      rw [putEntry]
      by_cases replaced : first = name
      · rw [if_pos replaced, lookup_cons_eq_ite, lookup_cons_eq_ite, replaced]
        by_cases same : other = name
        · rw [if_pos same, if_pos same]
        · rw [if_neg same, if_neg same, if_neg same]
      · rw [if_neg replaced, lookup_cons_eq_ite, lookup_cons_eq_ite, ih]
        by_cases same : other = first
        · rw [if_pos same, if_pos same, if_neg (same ▸ replaced)]
        · rw [if_neg same, if_neg same]

/-- Nothing is below a file or an empty directory. -/
def IsLeaf (tree : FileTree) : Prop :=
  ∀ name, tree.entry? name = none

theorem isLeaf_file (content : ByteArray) : IsLeaf (file content) :=
  fun _ => rfl

theorem isLeaf_empty : IsLeaf empty :=
  fun _ => rfl

/-- Nothing lies inside of a tree that has nothing inside. -/
theorem entryAt?_of_isLeaf {tree : FileTree} (leaf : IsLeaf tree) (name : String)
    (names : List String) : tree.entryAt? (name :: names) = none := by
  rw [entryAt?, find?, leaf name]
  rfl

/-- An entry lies inside of the entry that its first name leads to. -/
theorem entryAt?_cons (name : String) (names : List String) (tree : FileTree) :
    tree.entryAt? (name :: names) = (tree.entry? name).bind (entryAt? names) := by
  rw [entryAt?, find?]
  cases tree.entry? name <;> rfl

/-- Nothing is below what is no directory. -/
theorem entryAt?_below {names : List String} {tree : FileTree}
    (noDirectory : tree.entryAt? names ≠ some .directory) (name : String) (more : List String) :
    tree.entryAt? (names ++ name :: more) = none := by
  rw [entryAt?, find?_append]
  cases found : tree.find? names with
  | none => rfl
  | some below =>
      cases below with
      | file content => exact entryAt?_of_isLeaf (isLeaf_file content) name more
      | directory entries => exact absurd (entryAt?_eq_directory.mpr ⟨entries, found⟩) noDirectory

/-- An entry that is put changes what lies under its name and nothing else. -/
theorem entryAt?_putEntry (name other : String) (names : List String) (placed : FileTree)
    (entries : List (String × FileTree)) :
    (directory (putEntry name placed entries)).entryAt? (other :: names) =
      if other = name then placed.entryAt? names
      else (directory entries).entryAt? (other :: names) := by
  rw [entryAt?_cons, entryAt?_cons, entry?, entry?, lookup_putEntry]
  split
  · rfl
  · rfl

/-- A leaf put into a directory, where no directory was, is the one entry that changes. -/
theorem entryAt?_put {here : List String} {name : String} {tree placed : FileTree}
    (contained : tree.entryAt? here = some .directory)
    (free : tree.entryAt? (here ++ [name]) ≠ some .directory) (leaf : IsLeaf placed)
    (names : List String) :
    (tree.put (here ++ [name]) placed).entryAt? names =
      if names = here ++ [name] then some placed.toEntry else tree.entryAt? names := by
  induction here generalizing tree names with
  | nil =>
      obtain ⟨entries, same⟩ := entryAt?_eq_directory.mp contained
      obtain rfl := Option.some.inj same
      rw [List.nil_append] at free ⊢
      rw [put, put]
      cases names with
      | nil =>
          rw [if_neg (List.cons_ne_nil _ _).symm]
          rfl
      | cons other names =>
          rw [entryAt?_putEntry]
          by_cases same : other = name
          · subst same
            rw [if_pos rfl]
            cases names with
            | nil =>
                rw [if_pos rfl]
                rfl
            | cons below names =>
                rw [entryAt?_of_isLeaf leaf, if_neg (by simp)]
                exact (entryAt?_below free below names).symm
          · rw [if_neg same, if_neg fun cons => same (List.cons.inj cons).1]
  | cons first here ih =>
      rw [List.cons_append] at free ⊢
      rw [entryAt?_cons] at contained free
      obtain ⟨below, found, inside⟩ := Option.bind_eq_some_iff.mp contained
      rw [found] at free
      cases tree with
      | file content => cases found
      | directory entries =>
          have kept : entries.lookup first = some below := found
          rw [put, kept, Option.getD_some]
          cases names with
          | nil =>
              rw [if_neg (List.cons_ne_nil _ _).symm]
              rfl
          | cons other names =>
              rw [entryAt?_putEntry]
              by_cases same : other = first
              · subst same
                rw [if_pos rfl, entryAt?_cons, found, Option.bind_some, ih inside free]
                simp only [List.cons.injEq, true_and]
              · rw [if_neg same, if_neg fun cons => same (List.cons.inj cons).1]

/-- Putting something at a free place changes what stands there and nothing else. -/
theorem directoryAt?_put {here : List String} {name : String} {tree placed : FileTree}
    (contained : tree.entryAt? here = some .directory)
    (free : tree.entryAt? (here ++ [name]) ≠ some .directory) (leaf : IsLeaf placed)
    (names : List String) :
    (tree.put (here ++ [name]) placed).directoryAt? names =
      if names = here ++ [name] then some placed.toEntry.isDirectory
      else tree.directoryAt? names := by
  rw [directoryAt?, entryAt?_put contained free leaf]
  split
  · rfl
  · rfl

end FileTree

end ModelScribe

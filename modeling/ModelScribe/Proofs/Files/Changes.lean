import ModelScribe.Proofs.Files.Entries
import ModelScribe.Proofs.Files.Places
import ModelScribe.Proofs.Steps

/-! # Changes to a file tree

What writing a file and creating directories do to the entries of a tree, and what
they look at. A written file is the one entry that changes
(`ModelScribe.FileTree.write_eq_ok`); of the directories on a path those that are
missing are created (`ModelScribe.FileTree.grows_createDirectories`). Both look at
nothing but whether there are files or directories on their paths
(`ModelScribe.FileTree.Alike`).
-/

namespace ModelScribe

namespace FileTree

open ModelScribe.Path

variable {base : List String} {path : String} {tree other : FileTree}

/-- A part of a path is followed by what stands where it is followed from and where it leads. -/
theorem follow_eq (tree : FileTree) (here : List String) (step : String) :
    tree.follow here step =
      match tree.directoryAt? here with
      | none => .error .notFound
      | some false => .error .notADirectory
      | some true =>
          if step = "" ∨ step = "." then .ok here
          else if step = ".." then .ok here.dropLast
          else if longestName < step.utf8ByteSize then .error .nameTooLong
          else if (tree.directoryAt? (here ++ [step])).isSome then .ok (here ++ [step])
          else .error .notFound := by
  unfold follow
  rw [directoryAt?_eq, directoryAt?_eq]
  cases found : tree.find? here with
  | none => rfl
  | some below =>
      cases below with
      | file content => rfl
      | directory entries =>
          rw [find?_concat found, Option.isSome_map]
          rfl

/-- A step that can be followed starts at a directory and leads to the next place. -/
theorem follow_eq_ok {here next : List String} {step : String}
    (followed : tree.follow here step = .ok next) :
    tree.directoryAt? here = some true ∧ next = advance here step := by
  rw [follow_eq] at followed
  split at followed
  · cases followed
  · cases followed
  · next stands =>
      refine ⟨stands, ?_⟩
      unfold advance
      split at followed
      · next stays => rw [if_pos stays]; exact (Except.ok.inj followed).symm
      · next goes =>
          rw [if_neg goes]
          split at followed
          · next back => rw [if_pos back]; exact (Except.ok.inj followed).symm
          · next forth =>
              rw [if_neg forth]
              split at followed
              · cases followed
              · split at followed
                · exact (Except.ok.inj followed).symm
                · cases followed

/-- Steps that can be followed lead to the place that they name. -/
theorem foldlM_follow_eq_ok {steps here there : List String}
    (followed : steps.foldlM tree.follow here = .ok there) : there = steps.foldl advance here := by
  induction steps generalizing here with
  | nil => exact (Except.ok.inj followed).symm
  | cons step steps ih =>
      obtain ⟨next, first, rest⟩ := bind_eq_ok.mp followed
      obtain ⟨_, rfl⟩ := follow_eq_ok first
      exact ih rest

/-- Two trees have files and directories at the same ones of some places. -/
def Alike (places : List String → Prop) (tree other : FileTree) : Prop :=
  ∀ names, places names → tree.directoryAt? names = other.directoryAt? names

/-- A step is followed with the same result in trees that are alike where it leads. -/
theorem Alike.follow {places : List String → Prop} (alike : Alike places tree other)
    {here : List String} (begins : places here) {step : String}
    (reaches : places (advance here step)) :
    tree.follow here step = other.follow here step := by
  rw [follow_eq, follow_eq, alike here begins]
  split
  · rfl
  · rfl
  · unfold advance at reaches
    split
    · rfl
    · next goes =>
        rw [if_neg goes] at reaches
        split
        · rfl
        · next forth =>
            rw [if_neg forth] at reaches
            rw [alike _ reaches]

/-- Steps are followed with the same result in trees that are alike on the way. -/
theorem Alike.foldlM_follow {places : List String → Prop} (alike : Alike places tree other)
    {steps here : List String}
    (through : ∀ parts, parts <+: steps → places (parts.foldl advance here)) :
    steps.foldlM tree.follow here = steps.foldlM other.follow here := by
  induction steps generalizing here with
  | nil => rfl
  | cons step steps ih =>
      have start : places here := through [] List.nil_prefix
      have next : places (advance here step) :=
        through [step] ⟨steps, rfl⟩
      rw [List.foldlM_cons, List.foldlM_cons, alike.follow start next]
      cases followed : other.follow here step with
      | error problem => rfl
      | ok there =>
          obtain ⟨_, rfl⟩ := follow_eq_ok followed
          exact ih fun parts begins => through (step :: parts) (List.cons_prefix_cons.mpr ⟨rfl, begins⟩)

/-- A path is walked with the same result in trees that are alike on the way. -/
theorem Alike.walk (alike : Alike (LeadsThrough base path) tree other) {parts : List String}
    (begins : parts <+: steps path) : tree.walk base path parts = other.walk base path parts := by
  unfold FileTree.walk
  rw [alike.foldlM_follow fun first starts => ⟨first, starts.trans begins, rfl⟩]

/-- Where a directory stands at the end, one stands at the start. -/
theorem directoryAt?_of_foldlM_follow {steps here there : List String}
    (followed : steps.foldlM tree.follow here = .ok there)
    (ends : tree.directoryAt? there = some true) : tree.directoryAt? here = some true := by
  cases steps with
  | nil =>
      obtain rfl := Except.ok.inj followed
      exact ends
  | cons step steps =>
      obtain ⟨next, first, _⟩ := bind_eq_ok.mp followed
      exact (follow_eq_ok first).1

/-- A path to a directory is followed in the same way where all directories are kept. -/
theorem foldlM_follow_of_kept
    (kept : ∀ names, tree.directoryAt? names = some true → other.directoryAt? names = some true)
    {steps here there : List String} (followed : steps.foldlM tree.follow here = .ok there)
    (ends : tree.directoryAt? there = some true) : steps.foldlM other.follow here = .ok there := by
  induction steps generalizing here with
  | nil => exact followed
  | cons step steps ih =>
      obtain ⟨next, first, rest⟩ := bind_eq_ok.mp followed
      have stands := directoryAt?_of_foldlM_follow rest ends
      obtain ⟨start, rfl⟩ := follow_eq_ok first
      have alike : Alike (fun names => names = here ∨ names = advance here step) other tree := by
        intro names member
        rcases member with rfl | rfl
        · rw [start, kept _ start]
        · rw [stands, kept _ stands]
      rw [List.foldlM_cons, alike.follow (.inl rfl) (.inr rfl), first]
      exact ih rest

/-- A path leads to a directory, but for its last part, which is a name. -/
structure Located (base : List String) (path : String) (tree : FileTree) (here : List String)
    (name : String) : Prop where
  walked : tree.walk base path (steps path).dropLast = .ok here
  stands : tree.directoryAt? here = some true
  parts : steps path = (steps path).dropLast ++ [name]
  proper : ¬(name = "" ∨ name = "." ∨ name = "..")
  short : ¬longestName < name.utf8ByteSize

/-- What is located lies under its name in a directory that the path leads to. -/
theorem locate_eq_ok {here : List String} {name : String}
    (located : tree.locate base path = .ok (here, some name)) : Located base path tree here name := by
  unfold locate at located
  obtain ⟨there, walked, located⟩ := bind_eq_ok.mp located
  obtain ⟨same, stays, located⟩ := bind_eq_ok.mp located
  obtain ⟨stands, _⟩ := follow_eq_ok stays
  split at located
  · cases Except.ok.inj located
  · next proper =>
      split at located
      · cases located
      · next short =>
          cases Except.ok.inj located
          refine ⟨walked, stands, ?_, proper, short⟩
          rw [List.getLast?_eq_some_getLast (steps_ne_nil path), Option.getD_some,
            List.dropLast_concat_getLast]

/-- A path can be walked exactly if it is a name of something and its steps can be followed. -/
theorem walk_eq_ok {parts there : List String} :
    tree.walk base path parts = .ok there ↔
      path.toList.contains '\x00' = false ∧ path.isEmpty = false ∧
        parts.foldlM tree.follow (start base path) = .ok there := by
  unfold walk
  split
  · next contains =>
      rw [contains]
      exact iff_of_false (fun failed => by cases failed) fun all => Bool.noConfusion all.1
  · next contains =>
      rw [Bool.not_eq_true] at contains
      split
      · next empty =>
          rw [empty]
          exact iff_of_false (fun failed => by cases failed) fun all => Bool.noConfusion all.2.1
      · next empty =>
          rw [Bool.not_eq_true] at empty
          exact ⟨fun walked => ⟨contains, empty, walked⟩, fun all => all.2.2⟩

/-- What stands where a path resolves to is read. -/
theorem read_eq_ok {names : List String} {content : ByteArray}
    (resolved : tree.resolve base path = .ok names) (found : tree.find? names = some (file content)) :
    tree.read base path = .ok content := by
  simp only [FileTree.read, resolved, bind, Except.bind, found]
  rfl

namespace Located

variable {here : List String} {name : String}

/-- The last step of a located path goes down by its name. -/
theorem advance_eq (located : Located base path tree here name) :
    advance here name = here ++ [name] := by
  obtain ⟨nonempty, others⟩ := not_or.mp located.proper
  obtain ⟨dot, dots⟩ := not_or.mp others
  rw [advance, if_neg (not_or.mpr ⟨nonempty, dot⟩), if_neg dots]

/-- The place of a located path is its name in the directory found. -/
theorem place_eq (located : Located base path tree here name) :
    place base path = here ++ [name] := by
  have walked := foldlM_follow_eq_ok (walk_eq_ok.mp located.walked).2.2
  rw [place, located.parts, List.foldl_append, ← walked]
  exact located.advance_eq

theorem contained (located : Located base path tree here name) :
    tree.entryAt? here = some .directory :=
  directoryAt?_eq_some_true.mp located.stands

/-- The path leads to what is put where it is located. -/
theorem read_put (located : Located base path tree here name)
    (free : tree.entryAt? (here ++ [name]) ≠ some .directory) (content : ByteArray) :
    (tree.put (here ++ [name]) (file content)).read base path = .ok content := by
  have entries := entryAt?_put located.contained free (isLeaf_file content)
  have kept : ∀ names, tree.directoryAt? names = some true →
      (tree.put (here ++ [name]) (file content)).directoryAt? names = some true := by
    intro names stands
    rw [directoryAt?_eq_some_true] at stands ⊢
    rw [entries, if_neg, stands]
    rintro rfl
    exact free stands
  have own : (tree.put (here ++ [name]) (file content)).entryAt? (here ++ [name]) =
      some (.file content) := by
    rw [entries, if_pos rfl]
    rfl
  obtain ⟨noNul, nonempty, walked⟩ := walk_eq_ok.mp located.walked
  obtain ⟨blank, dots⟩ : ¬(name = "" ∨ name = ".") ∧ ¬name = ".." := by
    simpa [not_or, and_assoc] using located.proper
  have last : (tree.put (here ++ [name]) (file content)).follow here name =
      .ok (here ++ [name]) := by
    rw [follow_eq, kept here located.stands]
    dsimp only
    rw [if_neg blank, if_neg dots, if_neg located.short, directoryAt?, own]
    rfl
  have resolved : (tree.put (here ++ [name]) (file content)).resolve base path =
      .ok (here ++ [name]) := by
    rw [resolve, walk_eq_ok]
    refine ⟨noNul, nonempty, ?_⟩
    rw [located.parts, List.foldlM_append, foldlM_follow_of_kept kept walked located.stands]
    exact congrArg (· >>= pure) last
  exact read_eq_ok resolved (entryAt?_eq_file.mp own)

end Located

/-- Puts a leaf where a path leads to, unless the path ends in no name or what stands there
forbids it. -/
def putAt (base : List String) (path : String) (tree placed : FileTree) (noName : FileProblem)
    (refusal : Option Bool → Option FileProblem) : Except FileProblem FileTree := do
  match ← tree.locate base (unslashed path) with
  | (_, none) => throw noName
  | (here, some name) =>
      match refusal (tree.directoryAt? (here ++ [name])) with
      | some problem => throw problem
      | none => return tree.put (here ++ [name]) placed

/-- Writing puts a file at a place where no directory stands and no slash trails. -/
theorem write_eq (base : List String) (path : String) (content : ByteArray) (tree : FileTree) :
    tree.write base path content = tree.putAt base path (file content) .isADirectory fun stands =>
      if unslashed path ≠ path ∨ stands = some true then some .isADirectory else none := by
  have stands : ∀ names, ((tree.find? names).map isDirectory).getD false = true ↔
      tree.directoryAt? names = some true := by
    intro names
    rw [directoryAt?_eq]
    cases (tree.find? names).map isDirectory <;> simp
  unfold write putAt
  congr 1
  funext found
  obtain ⟨here, last⟩ := found
  cases last with
  | none => rfl
  | some name =>
      simp only [stands]
      by_cases refused : unslashed path ≠ path ∨ tree.directoryAt? (here ++ [name]) = some true
      · rw [if_pos refused, if_pos refused]
      · rw [if_neg refused, if_neg refused]

/-- Creating a directory puts an empty one at a place where nothing stands. -/
theorem createDirectory_eq (base : List String) (path : String) (tree : FileTree) :
    tree.createDirectory base path = tree.putAt base path empty .alreadyExists fun stands =>
      stands.map fun _ => .alreadyExists := by
  unfold createDirectory putAt
  congr 1
  funext found
  obtain ⟨here, last⟩ := found
  cases last with
  | none => rfl
  | some name =>
      simp only [directoryAt?_eq]
      cases tree.find? (here ++ [name]) <;> rfl

section PutAt

variable {placed : FileTree} {noName : FileProblem} {refusal : Option Bool → Option FileProblem}

/-- No directory stands where a leaf may be put. -/
theorem free_of_refusal (refuses : refusal (some true) ≠ none) {names : List String}
    (allowed : refusal (tree.directoryAt? names) = none) :
    tree.entryAt? names ≠ some .directory := by
  intro stands
  rw [directoryAt?_eq_some_true.mpr stands] at allowed
  exact refuses allowed

/-- What has been put stands at the located place, where no directory stood before. -/
theorem putAt_eq_ok {changed : FileTree} (refuses : refusal (some true) ≠ none)
    (puts : tree.putAt base path placed noName refusal = .ok changed) :
    ∃ here name, tree.locate base (unslashed path) = .ok (here, some name) ∧
      refusal (tree.directoryAt? (here ++ [name])) = none ∧
      tree.entryAt? (here ++ [name]) ≠ some .directory ∧
      changed = tree.put (here ++ [name]) placed := by
  obtain ⟨⟨here, last⟩, located, puts⟩ := bind_eq_ok.mp puts
  cases last with
  | none => cases puts
  | some name =>
      refine ⟨here, name, located, ?_⟩
      dsimp only at puts
      split at puts
      · cases puts
      · next allowed =>
          exact ⟨allowed, free_of_refusal refuses allowed, (Except.ok.inj puts).symm⟩

end PutAt

/-- **Writing.** A written file is found where its path leads to and read again along its path, and
nothing else changes. -/
theorem write_eq_ok {content : ByteArray} {written : FileTree}
    (writes : tree.write base path content = .ok written) :
    written.entryAt? (place base path) = some (.file content) ∧
      (∀ names, names ≠ place base path → written.entryAt? names = tree.entryAt? names) ∧
      written.read base path = .ok content := by
  rw [write_eq] at writes
  obtain ⟨here, name, found, allowed, free, rfl⟩ := putAt_eq_ok (by simp) writes
  have whole : unslashed path = path := by
    refine Decidable.not_not.mp fun slashed => ?_
    rw [if_pos (.inl slashed)] at allowed
    cases allowed
  rw [whole] at found
  have located := locate_eq_ok found
  have entries := entryAt?_put located.contained free (isLeaf_file content)
  rw [located.place_eq]
  refine ⟨?_, ?_, located.read_put free content⟩
  · rw [entries, if_pos rfl]
    rfl
  · intro names apart
    rw [entries, if_neg apart]

/-- A tree grows by directories at some places, where nothing was. -/
def Grows (places : List String → Prop) (tree grown : FileTree) : Prop :=
  ∀ names, grown.entryAt? names = tree.entryAt? names ∨
    tree.entryAt? names = none ∧ grown.entryAt? names = some .directory ∧ places names

theorem Grows.refl (places : List String → Prop) (tree : FileTree) : Grows places tree tree :=
  fun _ => .inl rfl

/-- Growing twice is growing. -/
theorem Grows.trans {places : List String → Prop} {middle grown : FileTree}
    (first : Grows places tree middle) (second : Grows places middle grown) :
    Grows places tree grown := by
  intro names
  rcases second names with same | ⟨missing, created, member⟩
  · rw [same]
    exact first names
  · rcases first names with same | ⟨_, there, _⟩
    · exact .inr ⟨same ▸ missing, created, member⟩
    · rw [missing] at there
      cases there

/-- A tree that grows at some places grows at more. -/
theorem Grows.weaken {places more : List String → Prop} {grown : FileTree}
    (grows : Grows places tree grown) (within : ∀ names, places names → more names) :
    Grows more tree grown := by
  intro names
  rcases grows names with same | ⟨missing, created, member⟩
  · exact .inl same
  · exact .inr ⟨missing, created, within names member⟩

/-- Creating a directory lets a tree grow on the way of its path. -/
theorem grows_createDirectory {created : FileTree}
    (creates : tree.createDirectory base path = .ok created) :
    Grows (LeadsThrough base path) tree created := by
  rw [createDirectory_eq] at creates
  obtain ⟨here, name, found, missing, free, rfl⟩ := putAt_eq_ok (by simp) creates
  have located := locate_eq_ok found
  have entries := entryAt?_put located.contained free isLeaf_empty
  intro names
  by_cases same : names = here ++ [name]
  · subst same
    refine .inr ⟨?_, ?_, ?_⟩
    · rw [Option.map_eq_none_iff, directoryAt?, Option.map_eq_none_iff] at missing
      exact missing
    · rw [entries, if_pos rfl]
      rfl
    · rw [← located.place_eq]
      exact (leadsThrough_place _ _).of_unslashed
  · rw [entries, if_neg same]
    exact .inl rfl

/-- Making a directory, whether that succeeds or not, lets a tree grow on the way. -/
theorem grows_makeDirectory (base : List String) (path : String) (tree : FileTree) :
    Grows (LeadsThrough base path) tree (tree.makeDirectory base path).2 := by
  unfold makeDirectory
  split
  · next created creates => exact grows_createDirectory creates
  · exact .refl _ _

/-- Making directories, one inside the other, lets a tree grow on the way. -/
theorem grows_createDirectoriesWithin (base : List String) (fuel : Nat) (path : String)
    (tree : FileTree) :
    Grows (LeadsThrough base path) tree (tree.createDirectoriesWithin base fuel path).2 := by
  induction fuel generalizing path with
  | zero => exact .refl _ _
  | succ fuel ih =>
      rw [createDirectoriesWithin]
      split
      · exact .refl _ _
      · split
        · exact .refl _ _
        · next parent missing contains =>
            have above := (ih parent).weaken fun names => LeadsThrough.of_parent contains
            split
            · next made outcome =>
                rw [outcome] at above
                exact above.trans (grows_makeDirectory base path made)
            · exact above
        · exact grows_makeDirectory base path tree

/-- **Creating directories.** Of the directories on a path those that are missing are created, as
far as they can be, and nothing else changes. -/
theorem grows_createDirectories (base : List String) (path : String) (tree : FileTree) :
    Grows (LeadsThrough base path) tree (tree.createDirectories base path).2 :=
  grows_createDirectoriesWithin base _ path tree

theorem Alike.weaken {places fewer : List String → Prop} (alike : Alike places tree other)
    (within : ∀ names, fewer names → places names) : Alike fewer tree other :=
  fun names member => alike names (within names member)

/-- A path is located alike in trees that are alike on the way. -/
theorem Alike.locate (alike : Alike (LeadsThrough base path) tree other) :
    tree.locate base path = other.locate base path := by
  unfold FileTree.locate
  dsimp only
  rw [alike.walk (List.dropLast_prefix _)]
  cases walked : other.walk base path (steps path).dropLast with
  | error problem => rfl
  | ok there =>
      have through : LeadsThrough base path there :=
        ⟨_, List.dropLast_prefix _, foldlM_follow_eq_ok (walk_eq_ok.mp walked).2.2⟩
      have stays : tree.follow there "" = other.follow there "" := alike.follow through through
      show (tree.follow there "" >>= _) = (other.follow there "" >>= _)
      rw [stays]

/-- Two changes fail for the same reason, or lead to trees that are alike. -/
inductive AlikeResults (places : List String → Prop) :
    Except FileProblem FileTree → Except FileProblem FileTree → Prop
  | failed (problem : FileProblem) : AlikeResults places (.error problem) (.error problem)
  | changed {tree other : FileTree} (alike : Alike places tree other) :
      AlikeResults places (.ok tree) (.ok other)

section Alike

variable {places : List String → Prop} (alike : Alike places tree other)
  (within : ∀ names, LeadsThrough base path names → places names)

include alike

/-- The same leaf put at the same place leaves trees alike. -/
theorem Alike.put {path : String} {here : List String} {name : String} {placed : FileTree}
    (located : Located base path tree here name) (otherLocated : Located base path other here name)
    (free : tree.entryAt? (here ++ [name]) ≠ some .directory)
    (otherFree : other.entryAt? (here ++ [name]) ≠ some .directory) (leaf : IsLeaf placed) :
    Alike places (tree.put (here ++ [name]) placed) (other.put (here ++ [name]) placed) := by
  intro names member
  rw [directoryAt?_put located.contained free leaf,
    directoryAt?_put otherLocated.contained otherFree leaf, alike names member]

include within

/-- Putting something at a path gives trees that are still alike, or the same problem. -/
theorem Alike.putAt {placed : FileTree} {noName : FileProblem}
    {refusal : Option Bool → Option FileProblem} (leaf : IsLeaf placed)
    (refuses : refusal (some true) ≠ none) :
    AlikeResults places (tree.putAt base path placed noName refusal)
      (other.putAt base path placed noName refusal) := by
  have same := (alike.weaken fun names through =>
    within names (LeadsThrough.of_unslashed through)).locate
  unfold FileTree.putAt
  rw [same]
  cases located : other.locate base (unslashed path) with
  | error problem => exact .failed problem
  | ok found =>
      obtain ⟨here, last⟩ := found
      cases last with
      | none => exact .failed noName
      | some name =>
          have own := locate_eq_ok (same.trans located)
          have stands : tree.directoryAt? (here ++ [name]) = other.directoryAt? (here ++ [name]) := by
            rw [← own.place_eq]
            exact alike _ (within _ (leadsThrough_place _ _).of_unslashed)
          show AlikeResults places
            (match refusal (tree.directoryAt? (here ++ [name])) with
              | some problem => throw problem
              | none => return tree.put (here ++ [name]) placed)
            (match refusal (other.directoryAt? (here ++ [name])) with
              | some problem => throw problem
              | none => return other.put (here ++ [name]) placed)
          rw [stands]
          cases allowed : refusal (other.directoryAt? (here ++ [name])) with
          | some problem => exact .failed problem
          | none =>
              have free := free_of_refusal refuses (stands ▸ allowed)
              have otherFree := free_of_refusal refuses allowed
              exact .changed (alike.put own (locate_eq_ok located) free otherFree leaf)

/-- Writing a file gives trees that are still alike, or the same problem. -/
theorem Alike.write (content : ByteArray) :
    AlikeResults places (tree.write base path content) (other.write base path content) := by
  rw [write_eq, write_eq]
  exact alike.putAt within (isLeaf_file content) (by simp)

/-- Creating a directory gives trees that are still alike, or the same problem. -/
theorem Alike.createDirectory :
    AlikeResults places (tree.createDirectory base path) (other.createDirectory base path) := by
  rw [createDirectory_eq, createDirectory_eq]
  exact alike.putAt within isLeaf_empty (by simp)

/-- A directory is there in both of two trees that are alike on its way, or in none. -/
theorem Alike.hasDirectory : tree.hasDirectory base path = other.hasDirectory base path := by
  have same := (alike.weaken within).walk (List.prefix_refl (steps path))
  unfold FileTree.hasDirectory resolve
  rw [same]
  cases walked : other.walk base path (steps path) with
  | error problem => rfl
  | ok names =>
      have place : places names := by
        rw [foldlM_follow_eq_ok (walk_eq_ok.mp walked).2.2]
        exact within _ (leadsThrough_place base path)
      have stands := alike names place
      rw [directoryAt?_eq, directoryAt?_eq] at stands
      dsimp only
      rw [stands]

/-- Making a directory has the same result in both trees and leaves them alike. -/
theorem Alike.makeDirectory :
    (tree.makeDirectory base path).1 = (other.makeDirectory base path).1 ∧
      Alike places (tree.makeDirectory base path).2 (other.makeDirectory base path).2 := by
  have results := alike.createDirectory within
  have there := alike.hasDirectory within
  unfold FileTree.makeDirectory
  rw [there]
  generalize tree.createDirectory base path = result at results
  generalize other.createDirectory base path = otherResult at results
  cases results with
  | failed problem => exact ⟨rfl, alike⟩
  | changed created => exact ⟨rfl, created⟩

end Alike

/-- Creating directories has the same outcome in trees that are alike on the path. -/
theorem Alike.createDirectoriesWithin {places : List String → Prop}
    (alike : Alike places tree other)
    (within : ∀ names, LeadsThrough base path names → places names) (fuel : Nat) :
    (tree.createDirectoriesWithin base fuel path).1 =
        (other.createDirectoriesWithin base fuel path).1 ∧
      Alike places (tree.createDirectoriesWithin base fuel path).2
        (other.createDirectoriesWithin base fuel path).2 := by
  induction fuel generalizing path with
  | zero => exact ⟨rfl, alike⟩
  | succ fuel ih =>
      have made := alike.makeDirectory within
      have results := alike.createDirectory within
      rw [FileTree.createDirectoriesWithin, FileTree.createDirectoriesWithin]
      split
      · exact ⟨rfl, alike⟩
      · generalize tree.createDirectory base path = result at results
        generalize other.createDirectory base path = otherResult at results
        cases results with
        | changed created => exact made
        | failed problem =>
            split
            · exact ⟨rfl, alike⟩
            · next parent missing contains =>
                have above := ih fun names through =>
                  within names (LeadsThrough.of_parent contains through)
                rcases outcome : tree.createDirectoriesWithin base fuel parent with ⟨end_, grown⟩
                rcases otherOutcome : other.createDirectoriesWithin base fuel parent with
                  ⟨otherEnd, otherGrown⟩
                rw [outcome, otherOutcome] at above
                obtain ⟨same, grownAlike⟩ := above
                obtain rfl : end_ = otherEnd := same
                cases end_ with
                | ok done => exact grownAlike.makeDirectory within
                | error problem => exact ⟨rfl, grownAlike⟩
            · exact made

end FileTree

end ModelScribe

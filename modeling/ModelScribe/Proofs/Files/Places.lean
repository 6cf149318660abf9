import ModelScribe.Files.Path

/-! # Places on a path

The first parts of a path lead to a place each, whatever there is in the file tree
(`ModelScribe.Path.LeadsThrough`). A path without the slashes at its end and the
path of what contains a file lead through no other places
(`ModelScribe.Path.LeadsThrough.of_unslashed`,
`ModelScribe.Path.LeadsThrough.of_parent`).
-/

namespace ModelScribe.Path

/-- Where a part of a path leads from a place. -/
def advance (here : List String) (step : String) : List String :=
  if step = "" ∨ step = "." then here
  else if step = ".." then here.dropLast
  else here ++ [step]

/-- The place that some of the first parts of a path lead to. -/
def LeadsThrough (base : List String) (path : String) (place : List String) : Prop :=
  ∃ parts, parts <+: steps path ∧ place = parts.foldl advance (start base path)

/-- The place that a whole path leads to. -/
def place (base : List String) (path : String) : List String :=
  (steps path).foldl advance (start base path)

theorem leadsThrough_place (base : List String) (path : String) :
    LeadsThrough base path (place base path) :=
  ⟨steps path, List.prefix_refl _, rfl⟩

/-- There is no slash in what stands between slashes. -/
theorem slash_not_mem_splitOn {text piece : List Char} (member : piece ∈ text.splitOn '/') :
    '/' ∉ piece := by
  induction text generalizing piece with
  | nil =>
      rw [List.splitOn_nil, List.mem_singleton] at member
      rw [member]
      exact List.not_mem_nil
  | cons character text ih =>
      rw [List.splitOn_cons_eq_if_modifyHead] at member
      split at member
      · rcases List.mem_cons.mp member with rfl | member
        · exact List.not_mem_nil
        · exact ih member
      · next other =>
          obtain ⟨first, more, pieces⟩ :=
            List.exists_cons_of_ne_nil (List.splitOn_ne_nil '/' text)
          rw [pieces] at member ih
          rcases List.mem_cons.mp member with rfl | member
          · intro inside
            rcases List.mem_cons.mp inside with same | inside
            · exact other (beq_iff_eq.mpr same.symm)
            · exact ih (List.mem_cons_self ..) inside
          · exact ih (List.mem_cons_of_mem _ member)

/-- There is no slash in a step of a path. -/
theorem slash_not_mem_steps {path step : String} (member : step ∈ steps path) :
    '/' ∉ step.toList := by
  obtain ⟨piece, among, rfl⟩ := List.mem_map.mp member
  rw [String.toList_ofList]
  exact slash_not_mem_splitOn among

theorem steps_ne_nil (path : String) : steps path ≠ [] :=
  mt List.map_eq_nil_iff.mp (List.splitOn_ne_nil '/' path.toList)

/-- Parts without slashes are the parts of the path that they make up. -/
theorem steps_intercalate {parts : List String} (some : parts ≠ [])
    (whole : ∀ step ∈ parts, '/' ∉ step.toList) :
    steps (String.intercalate "/" parts) = parts := by
  have apart : ∀ piece ∈ parts.map String.toList, '/' ∉ piece := by
    intro piece member
    obtain ⟨step, among, rfl⟩ := List.mem_map.mp member
    exact whole step among
  have pieces : parts.map String.toList ≠ [] := mt List.map_eq_nil_iff.mp some
  rw [steps, String.toList_intercalate]
  show ((List.intercalate ['/'] (parts.map String.toList)).splitOn '/').map String.ofList = parts
  have identity : String.ofList ∘ String.toList = id := funext fun _ => String.ofList_toList
  rw [List.splitOn_intercalate '/' apart pieces, List.map_map, identity, List.map_id]

/-- A path is absolute if its first character is a slash. -/
theorem startsWith_slash {path : String} :
    path.startsWith "/" = true ↔ ∃ rest, path.toList = '/' :: rest := by
  rw [String.startsWith_string_iff]
  constructor
  · rintro ⟨rest, same⟩
    exact ⟨rest, same.symm⟩
  · rintro ⟨rest, same⟩
    exact ⟨rest, same.symm⟩

/-- A path that starts with a slash has an empty part before that, and more behind it. -/
theorem startsWith_slash_iff {path : String} :
    path.startsWith "/" = true ↔ ∃ parts, parts ≠ [] ∧ steps path = "" :: parts := by
  rw [startsWith_slash]
  constructor
  · rintro ⟨rest, text⟩
    refine ⟨(rest.splitOn '/').map String.ofList, ?_, ?_⟩
    · exact mt List.map_eq_nil_iff.mp (List.splitOn_ne_nil '/' rest)
    · rw [steps, text]
      simp [List.splitOn_cons_eq_if_modifyHead]
  · rintro ⟨parts, some, whole⟩
    rw [steps] at whole
    cases text : path.toList with
    | nil =>
        rw [text, List.splitOn_nil, List.map_singleton] at whole
        exact absurd (List.cons.inj whole).2.symm some
    | cons character rest =>
        by_cases slash : character = '/'
        · exact ⟨rest, by rw [slash]⟩
        · obtain ⟨first, more, pieces⟩ :=
            List.exists_cons_of_ne_nil (List.splitOn_ne_nil '/' rest)
          rw [text, List.splitOn_cons_eq_if_modifyHead, pieces] at whole
          simp [slash] at whole

/-- Paths that are both absolute or both not start at the same place. -/
theorem start_congr {path other : String}
    (same : path.startsWith "/" = true ↔ other.startsWith "/" = true) (base : List String) :
    start base path = start base other := by
  unfold start
  by_cases slash : path.startsWith "/" = true
  · rw [if_pos slash, if_pos (same.mp slash)]
  · rw [if_neg slash, if_neg (mt same.mpr slash)]

/-- A path leads through the places of its first steps. -/
theorem LeadsThrough.of_prefix {base : List String} {path other : String} {place : List String}
    (through : LeadsThrough base other place) (starts : steps other <+: steps path)
    (same : start base other = start base path) : LeadsThrough base path place := by
  obtain ⟨parts, begins, rfl⟩ := through
  exact ⟨parts, begins.trans starts, by rw [same]⟩

/-- Empty parts lead nowhere. -/
theorem foldl_advance_empty {parts : List String} (empty : ∀ step ∈ parts, step = "")
    (here : List String) : parts.foldl advance here = here := by
  induction parts with
  | nil => rfl
  | cons step parts ih =>
      obtain ⟨rfl, others⟩ := List.forall_mem_cons.mp empty
      exact ih others

/-- A path without names leads through the place where it starts, as all do. -/
theorem LeadsThrough.of_empty {base : List String} {path other : String} {place : List String}
    (through : LeadsThrough base other place) (empty : ∀ step ∈ steps other, step = "")
    (same : start base other = start base path) : LeadsThrough base path place := by
  obtain ⟨parts, begins, rfl⟩ := through
  refine ⟨[], List.nil_prefix, ?_⟩
  rw [foldl_advance_empty fun step member => empty step (begins.subset member), same]
  rfl

/-- A text is what is left without the slashes at its end, and these. -/
theorem exists_slashes_dropped (text : List Char) :
    ∃ count, text = (text.reverse.dropWhile (· == '/')).reverse ++ List.replicate count '/' := by
  have slashes : text.reverse.takeWhile (· == '/') =
      List.replicate (text.reverse.takeWhile (· == '/')).length '/' := by
    refine List.eq_replicate_of_mem fun character member => ?_
    exact beq_iff_eq.mp (List.all_eq_true.mp List.all_takeWhile character member)
  refine ⟨(text.reverse.takeWhile (· == '/')).length, ?_⟩
  calc text
      = (text.reverse.takeWhile (· == '/') ++ text.reverse.dropWhile (· == '/')).reverse := by
        rw [List.takeWhile_append_dropWhile, List.reverse_reverse]
    _ = (text.reverse.dropWhile (· == '/')).reverse ++
          (text.reverse.takeWhile (· == '/')).reverse := List.reverse_append
    _ = _ := by
        conv => lhs; rw [slashes, List.reverse_replicate]

/-- The slashes at the end of a path are missing without them, but that a path of slashes alone
keeps one. -/
theorem exists_slashes (path : String) :
    ∃ count, path.toList = (unslashed path).toList ++ List.replicate count '/' := by
  obtain ⟨count, text⟩ := exists_slashes_dropped path.toList
  unfold unslashed
  split
  · next kept =>
      rw [kept, List.reverse_nil, List.nil_append] at text
      cases count with
      | zero =>
          obtain rfl := String.toList_eq_nil_iff.mp text
          exact ⟨0, rfl⟩
      | succ count =>
          have nonempty : path.isEmpty = false := by
            rw [← Bool.not_eq_true, String.isEmpty_iff]
            rintro rfl
            exact absurd text (List.cons_ne_nil _ _).symm
          rw [nonempty]
          exact ⟨count, text⟩
  · next kept rest =>
      rw [String.toList_ofList]
      exact ⟨count, text⟩

/-- Only of the empty path nothing is left without trailing slashes. -/
theorem unslashed_eq_empty {path : String} (empty : unslashed path = "") : path = "" := by
  unfold unslashed at empty
  split at empty
  · split at empty
    · next nothing => exact String.isEmpty_iff.mp nothing
    · exact absurd empty (by decide)
  · next kept some =>
      have none := congrArg String.toList empty
      rw [String.toList_ofList] at none
      exact absurd (List.reverse_eq_nil_iff.mp none) some

/-- Without the slashes at its end a path has some of its first parts. -/
theorem steps_unslashed_isPrefix (path : String) : steps (unslashed path) <+: steps path := by
  obtain ⟨count, text⟩ := exists_slashes path
  rw [steps, steps, text]
  cases count with
  | zero =>
      simp only [List.replicate_zero, List.append_nil, List.prefix_rfl]
  | succ count =>
      rw [List.replicate_succ, List.splitOn_append_cons_self, List.map_append]
      exact List.prefix_append _ _

/-- Trailing slashes have no part in where a path starts. -/
theorem start_unslashed (base : List String) (path : String) :
    start base (unslashed path) = start base path := by
  apply start_congr
  obtain ⟨count, text⟩ := exists_slashes path
  rw [startsWith_slash, startsWith_slash, text]
  cases kept : (unslashed path).toList with
  | nil =>
      obtain rfl := unslashed_eq_empty (String.toList_eq_nil_iff.mp kept)
      rw [← kept, ← text, kept]
      rfl
  | cons first rest => simp

/-- A path leads through the places that it leads through without trailing slashes. -/
theorem LeadsThrough.of_unslashed {base : List String} {path : String} {place : List String}
    (through : LeadsThrough base (unslashed path) place) : LeadsThrough base path place :=
  through.of_prefix (steps_unslashed_isPrefix path) (start_unslashed base path)

/-- A parent ends behind a step that is not empty. -/
theorem exists_of_mem_ends {steps : List String} {count : Nat} (member : count ∈ ends steps) :
    ∃ index step, steps[index]? = some step ∧ step ≠ "" ∧ count = index + 1 := by
  obtain ⟨⟨step, index⟩, among, rfl⟩ := List.mem_map.mp member
  obtain ⟨found, counts⟩ := List.mem_filter.mp among
  refine ⟨index, step, List.mem_zipIdx_iff_getElem?.mp found, ?_, rfl⟩
  rintro rfl
  simp [isName] at counts

/-- The path up to a part that is not empty. -/
theorem LeadsThrough.of_take {base : List String} {path : String} {place : List String}
    {index : Nat} {step : String} (found : (steps path)[index]? = some step) (nonempty : step ≠ "")
    (through : LeadsThrough base (String.intercalate "/" ((steps path).take (index + 1))) place) :
    LeadsThrough base path place := by
  have less := (List.getElem?_eq_some_iff.mp found).1
  have some : (steps path).take (index + 1) ≠ [] := by
    intro none
    rcases List.take_eq_nil_iff.mp none with none | none
    · exact absurd none (Nat.succ_ne_zero index)
    · rw [none] at less
      exact absurd less (Nat.not_lt_zero index)
  have parts := steps_intercalate some fun step member =>
    slash_not_mem_steps (List.mem_of_mem_take member)
  refine through.of_prefix (by rw [parts]; exact List.take_prefix _ _) (start_congr ?_ base)
  rw [startsWith_slash_iff, startsWith_slash_iff, parts]
  constructor
  · rintro ⟨more, others, whole⟩
    refine ⟨more ++ (steps path).drop (index + 1), List.append_ne_nil_of_left_ne_nil others _, ?_⟩
    rw [← List.cons_append, ← whole, List.take_append_drop]
  · rintro ⟨more, others, whole⟩
    rw [whole] at found ⊢
    cases index with
    | zero => exact absurd (Option.some.inj found).symm nonempty
    | succ index =>
        refine ⟨more.take (index + 1), ?_, rfl⟩
        intro none
        rcases List.take_eq_nil_iff.mp none with none | none
        · exact absurd none (Nat.succ_ne_zero index)
        · exact others none

/-- A path leads through the places that its parent leads through. -/
theorem LeadsThrough.of_parent {base : List String} {path parent : String} {place : List String}
    (contains : parent? path = some parent) (through : LeadsThrough base parent place) :
    LeadsThrough base path place := by
  unfold parent? at contains
  dsimp only at contains
  split at contains
  · cases contains
  · split at contains
    · next slash =>
        obtain rfl := Option.some.inj contains
        have absolute : "/".startsWith "/" = true := startsWith_slash.mpr ⟨[], rfl⟩
        exact through.of_empty (by decide) (start_congr (iff_of_true absolute slash) base)
    · next relative =>
        obtain rfl := Option.some.inj contains
        have empty : ¬ "".startsWith "/" = true := by
          rw [startsWith_slash]
          rintro ⟨rest, none⟩
          exact absurd none.symm (List.cons_ne_nil _ _)
        exact through.of_empty (by decide) (start_congr (iff_of_false empty relative) base)
  · next last before others listed =>
      obtain rfl := Option.some.inj contains
      have member : before ∈ ends (steps path) := by
        rw [← List.mem_reverse, listed]
        exact List.mem_cons_of_mem _ (List.mem_cons_self ..)
      obtain ⟨index, step, found, nonempty, rfl⟩ := exists_of_mem_ends member
      exact through.of_take found nonempty

end ModelScribe.Path

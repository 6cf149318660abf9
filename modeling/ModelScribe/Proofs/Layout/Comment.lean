import ModelScribe.Layout.Draft
import ModelScribe.Proofs.Layout.Standing
import ModelScribe.Proofs.Text.Lines

/-! # Block comments as they are laid out

A block comment is laid out line by line: blanks around its lines are left out,
and each line but the first is set at the indentation. No closing mark comes or
goes by that (`ModelScribe.Draft.commentInside_settledComment`), and nothing but
blanks does (`ModelScribe.Draft.ink_settledComment`).
-/

namespace ModelScribe

open Text

namespace Piece

/-- A blank in front has no part in where a comment may close. -/
theorem commentInside_cons_blank {closed : Bool} {blank : Char} (isBlank : isBlank blank = true)
    (rest : List Char) : CommentInside closed (blank :: rest) ↔ CommentInside closed rest := by
  constructor
  · intro belongs
    cases belongs with
    | mark => simp [Text.isBlank] at isBlank
    | character _ belongs => exact belongs
  · refine CommentInside.character ?_
    rintro ⟨more, same⟩
    rw [List.cons.injEq] at same
    simp [same.1, Text.isBlank] at isBlank

/-- Blanks before a text do not matter to where its closing mark is. -/
theorem commentInside_append_of_blank {closed : Bool} {before : List Char}
    (blank : ∀ character ∈ before, isBlank character = true) (rest : List Char) :
    CommentInside closed (before ++ rest) ↔ CommentInside closed rest := by
  induction before with
  | nil => rfl
  | cons character before ih =>
      rw [List.cons_append, commentInside_cons_blank (blank character (List.mem_cons_self ..)),
        ih fun other member => blank other (List.mem_cons_of_mem _ member)]

/-- No closing mark lies across a blank. -/
theorem commentInside_append_cons {closed : Bool} {before : List Char} {blank : Char}
    (isBlank : isBlank blank = true) (rest : List Char) :
    CommentInside closed (before ++ blank :: rest) ↔
      CommentInside false before ∧ CommentInside closed rest := by
  constructor
  · intro belongs
    induction before with
    | nil => exact ⟨.nil, (commentInside_cons_blank isBlank rest).mp belongs⟩
    | cons character before ih =>
        rw [List.cons_append] at belongs
        generalize whole : before ++ blank :: rest = text at belongs
        cases belongs with
        | mark =>
            cases before with
            | nil =>
                rw [List.nil_append, List.cons.injEq] at whole
                simp [whole.1, Text.isBlank] at isBlank
            | cons next before => simp at whole
        | character unmarked belongs =>
            subst whole
            obtain ⟨opens, belongs⟩ := ih belongs
            refine ⟨.character ?_ opens, belongs⟩
            rintro ⟨more, same⟩
            rw [List.cons.injEq] at same
            exact unmarked ⟨more ++ blank :: rest, by rw [same.1, same.2]; rfl⟩
  · rintro ⟨opens, belongs⟩
    generalize unclosed : false = open? at opens
    induction opens with
    | nil => exact (commentInside_cons_blank isBlank rest).mpr belongs
    | mark => exact absurd unclosed (by decide)
    | @character _ character inside unmarked opens ih =>
        refine .character ?_ (ih unclosed)
        rintro ⟨more, same⟩
        cases inside with
        | nil =>
            have slash : blank = '/' := (List.cons.inj (List.cons.inj same).2).1
            simp [slash, Text.isBlank] at isBlank
        | cons next inside =>
            exact not_beginsMarked_append unmarked (List.cons_ne_nil _ _) _ ⟨more, same⟩

/-- Without a star or without a slash there is no closing mark. -/
theorem commentInside_of_not_mem {inside : List Char} (lacks : '*' ∉ inside ∨ '/' ∉ inside) :
    CommentInside false inside := by
  induction inside with
  | nil => exact .nil
  | cons character inside ih =>
      simp only [List.mem_cons, not_or] at lacks
      refine .character ?_ (ih (lacks.imp (·.2) (·.2)))
      rintro ⟨rest, same⟩
      rw [List.cons.injEq] at same
      rcases lacks with noStar | noSlash
      · exact noStar.1 same.1.symm
      · exact noSlash.2 (same.2 ▸ List.mem_cons_self ..)

/-- A comment that is closed is not blank. -/
theorem CommentInside.not_blank {inside : List Char} (belongs : CommentInside true inside) :
    ¬ ∀ character ∈ inside, isBlank character = true := by
  intro blank
  generalize closes : true = closed at belongs
  induction belongs with
  | nil => exact absurd closes (by decide)
  | mark => exact absurd (blank '*' (List.mem_cons_self ..)) (by decide)
  | character _ _ ih =>
      exact ih (fun other member => blank other (List.mem_cons_of_mem _ member)) closes

/-- A closed comment ends with ink. -/
theorem CommentInside.endsInked {inside : List Char} (belongs : CommentInside true inside) :
    EndsInked inside := by
  generalize closes : true = closed at belongs
  induction belongs with
  | nil => exact absurd closes (by decide)
  | mark => exact ⟨['*'], '/', rfl, by decide⟩
  | @character _ character _ _ _ ih => exact (ih closes).append [character]

/-- Trimming a line of a comment does not touch a closing mark. -/
theorem CommentInside.trimEnd {closed : Bool} {line : List Char}
    (belongs : CommentInside closed line) : CommentInside closed (trimEnd line) := by
  obtain ⟨after, blankAfter, whole⟩ := exists_trimEnd_append line
  rw [whole] at belongs
  cases after with
  | nil => rwa [List.append_nil] at belongs
  | cons blank after =>
      have isBlank := blankAfter blank (List.mem_cons_self ..)
      obtain ⟨opens, belongs⟩ := (commentInside_append_cons isBlank after).mp belongs
      cases closed with
      | false => exact opens
      | true =>
          exact absurd (fun other member => blankAfter other (List.mem_cons_of_mem _ member))
            belongs.not_blank

/-- A comment that is trimmed closes as it did before. -/
theorem CommentInside.trim {closed : Bool} {line : List Char}
    (belongs : CommentInside closed line) : CommentInside closed (trim line) := by
  obtain ⟨before, blank, whole⟩ := exists_append_trimStart line
  rw [whole, commentInside_append_of_blank blank] at belongs
  exact belongs.trimEnd

/-- A comment of several lines is closed by its last one only. -/
theorem commentInside_intercalate {closed : Bool} {indentation : List Char}
    (indents : ∀ character ∈ indentation, isBlank character = true) (line next : List Char)
    (more : List (List Char)) :
    CommentInside closed (List.intercalate ('\n' :: indentation) (line :: next :: more)) ↔
      CommentInside false line ∧
        CommentInside closed (List.intercalate ('\n' :: indentation) (next :: more)) := by
  rw [List.intercalate_cons_cons, List.append_assoc, List.cons_append,
    commentInside_append_cons (by decide), commentInside_append_of_blank indents]

/-- The last line of a closed comment has the closing mark. -/
theorem CommentInside.getLast {closed : Bool} {indentation : List Char}
    (indents : ∀ character ∈ indentation, isBlank character = true) {line : List Char}
    {lines : List (List Char)}
    (belongs : CommentInside closed (List.intercalate ('\n' :: indentation) (line :: lines))) :
    CommentInside closed ((line :: lines).getLast (List.cons_ne_nil _ _)) := by
  induction lines generalizing line with
  | nil => simpa using belongs
  | cons next more ih =>
      rw [List.getLast_cons_cons]
      exact ih ((commentInside_intercalate indents line next more).mp belongs).2

/-- Leaving out lines at the end does not close a comment. -/
theorem CommentInside.of_prefix {indentation : List Char}
    (indents : ∀ character ∈ indentation, isBlank character = true) {line : List Char}
    {lines kept : List (List Char)} (shorter : kept <+: lines)
    (opens : CommentInside false (List.intercalate ('\n' :: indentation) (line :: lines))) :
    CommentInside false (List.intercalate ('\n' :: indentation) (line :: kept)) := by
  induction kept generalizing line lines with
  | nil =>
      cases lines with
      | nil => exact opens
      | cons next more =>
          rw [List.intercalate_singleton]
          exact ((commentInside_intercalate indents line next more).mp opens).1
  | cons next kept ih =>
      obtain ⟨dropped, rfl⟩ := shorter
      have parts := (commentInside_intercalate indents line next (kept ++ dropped)).mp opens
      exact (commentInside_intercalate indents line next kept).mpr
        ⟨parts.1, ih (List.prefix_append _ _) parts.2⟩

end Piece

namespace Draft

/-- The lines of a comment as they are laid out, from its lines in the source. -/
def settledLines : List (List Char) → List (List Char)
  | [] => []
  | first :: others => trim first :: others.map commentLine

/-- A block comment as it is laid out at an indentation, without empty lines at its end. -/
def settledComment (indentation comment : List Char) : List Char :=
  List.intercalate ('\n' :: indentation)
    ((commentLines comment).rdropWhile fun line => indentation.isEmpty && line.isEmpty)

/-- A line of a comment that begins with a star is set one space in. -/
theorem commentLine_eq_ite (line : List Char) :
    commentLine line = (if (trim line).head? = some '*' then [' '] else []) ++ trim line := by
  unfold commentLine
  split
  · next rest starred => simp [starred]
  · next trimmed plain =>
      rw [if_neg, List.nil_append]
      intro starred
      obtain ⟨rest, same⟩ := List.head?_eq_some_iff.mp starred
      exact plain rest same

/-- A line of a comment is its trimmed text, behind one space or none. -/
theorem commentLine_eq (line : List Char) :
    ∃ pad, (pad = [] ∨ pad = [' ']) ∧ commentLine line = pad ++ trim line := by
  refine ⟨_, ?_, commentLine_eq_ite line⟩
  split
  · exact .inr rfl
  · exact .inl rfl

/-- Lines that are trimmed alike are laid out alike. -/
theorem commentLine_congr {first second : List Char} (same : trim first = trim second) :
    commentLine first = commentLine second := by
  unfold commentLine
  rw [same]

/-- A laid out line of a comment is trimmed to what it was trimmed to before. -/
@[simp]
theorem trim_commentLine (line : List Char) : trim (commentLine line) = trim line := by
  obtain ⟨pad, short, shape⟩ := commentLine_eq line
  have blank : ∀ character ∈ pad, isBlank character = true := by
    rcases short with rfl | rfl
    · simp
    · simp [isBlank]
  have padded := trim_append_append_of_blank (trim line) blank (List.forall_mem_nil _)
  rwa [List.append_nil, ← shape, trim_trim] at padded

/-- Blanks around the lines of a comment do not matter to how they are set. -/
theorem settledLines_congr {first second : List (List Char)}
    (same : first.map trim = second.map trim) : settledLines first = settledLines second := by
  have trimmed : ∀ lines : List (List Char),
      lines.map commentLine = (lines.map trim).map commentLine := by
    intro lines
    rw [List.map_map]
    exact List.map_congr_left fun line _ => commentLine_congr (trim_trim line).symm
  cases first with
  | nil =>
      rw [List.map_nil, eq_comm, List.map_eq_nil_iff] at same
      rw [same]
  | cons line lines =>
      cases second with
      | nil => exact absurd same (List.cons_ne_nil _ _)
      | cons other others =>
          rw [List.map_cons, List.map_cons, List.cons.injEq] at same
          rw [settledLines, settledLines, same.1, trimmed lines, trimmed others, same.2]

/-- The lines of a comment are laid out line by line. -/
theorem commentLines_eq_settledLines (comment : List Char) :
    commentLines comment = settledLines (Text.lines comment) := by
  unfold commentLines settledLines
  cases Text.lines comment <;> rfl

/-- The laid-out lines of a comment come from the pieces between its line feeds. -/
theorem commentLines_append_unfinished (comment : List Char) :
    commentLines comment ++ unfinished comment = settledLines (comment.splitOn '\n') := by
  have cut : (comment.splitOn '\n').map trim =
      (Text.lines comment ++ unfinished comment).map trim := by
    have same := congrArg (List.map trim) (map_trimEnd_splitOn comment)
    simpa only [List.map_append, List.map_map, Function.comp_def, trim_trimEnd] using same
  have ending : (unfinished comment).map commentLine = unfinished comment := by
    unfold unfinished
    split <;> rfl
  rw [settledLines_congr cut, commentLines_eq_settledLines]
  cases lines : Text.lines comment with
  | nil =>
      obtain rfl := lines_eq_nil lines
      rfl
  | cons first others =>
      simp only [settledLines, List.cons_append, List.map_append, ending]

/-- Setting a line of a comment does not touch a closing mark. -/
theorem commentInside_commentLine {closed : Bool} {line : List Char}
    (belongs : Piece.CommentInside closed line) :
    Piece.CommentInside closed (commentLine line) := by
  obtain ⟨pad, short, shape⟩ := commentLine_eq line
  rw [shape]
  rcases short with rfl | rfl
  · exact belongs.trim
  · exact (Piece.commentInside_cons_blank (by decide) _).mpr belongs.trim

/-- Setting the lines of a comment at an indentation keeps it open or closed. -/
theorem commentInside_map_commentLine {closed : Bool} {indentation : List Char}
    (indents : ∀ character ∈ indentation, isBlank character = true) {line first : List Char}
    {lines : List (List Char)}
    (start : ∀ closed, Piece.CommentInside closed line → Piece.CommentInside closed first)
    (belongs : Piece.CommentInside closed (List.intercalate ['\n'] (line :: lines))) :
    Piece.CommentInside closed
      (List.intercalate ('\n' :: indentation) (first :: lines.map commentLine)) := by
  induction lines generalizing line first with
  | nil => simpa using start closed (by simpa using belongs)
  | cons next more ih =>
      have parts := (Piece.commentInside_intercalate (by simp) line next more).mp belongs
      exact (Piece.commentInside_intercalate indents first (commentLine next) _).mpr
        ⟨start false parts.1, ih (fun _ => commentInside_commentLine) parts.2⟩

/-- No empty line follows a closed comment. -/
theorem unfinished_of_closed {inside : List Char} (belongs : Piece.CommentInside true inside) :
    unfinished ('/' :: '*' :: inside) = [] :=
  unfinished_of_endsInked (belongs.endsInked.append ['/', '*'])

/-- The laid-out lines of a comment and the empty line a final line feed leaves are open or closed
as the comment is, at every indentation. -/
theorem exists_commentLines {closed : Bool} {indentation inside : List Char}
    (indents : ∀ character ∈ indentation, isBlank character = true)
    (belongs : Piece.CommentInside closed inside) :
    ∃ line others, commentLines ('/' :: '*' :: inside) ++ unfinished ('/' :: '*' :: inside) =
        ('/' :: '*' :: line) :: others ∧
      Piece.CommentInside closed (List.intercalate ('\n' :: indentation) (line :: others)) := by
  obtain ⟨line, lines, cut⟩ := List.exists_cons_of_ne_nil (List.splitOn_ne_nil '\n' inside)
  have spelled : List.intercalate ['\n'] (line :: lines) = inside := by
    rw [← cut, List.intercalate_splitOn]
  have first : trim ('/' :: '*' :: line) = '/' :: '*' :: trimEnd line := by
    rw [trim_of_beginsInked ⟨'/', '*' :: line, rfl, by decide⟩,
      trimEnd_cons_of_inked (by decide), trimEnd_cons_of_inked (by decide)]
  refine ⟨trimEnd line, lines.map commentLine, ?_, ?_⟩
  · rw [commentLines_append_unfinished, List.splitOn_cons_eq_if_modifyHead,
      List.splitOn_cons_eq_if_modifyHead, cut]
    simp [settledLines, first]
  · exact commentInside_map_commentLine indents (fun _ => Piece.CommentInside.trimEnd)
      (spelled ▸ belongs)

/-- A comment has lines. -/
theorem commentLines_ne_nil {comment : List Char} (nonempty : comment ≠ []) :
    commentLines comment ≠ [] := by
  unfold commentLines
  cases cut : Text.lines comment with
  | nil => exact absurd (lines_eq_nil cut) nonempty
  | cons first others => exact List.cons_ne_nil _ _

/-- The last laid-out line of a closed comment is not empty. -/
theorem getLast_commentLines_ne_nil {inside : List Char}
    (belongs : Piece.CommentInside true inside)
    (nonempty : commentLines ('/' :: '*' :: inside) ≠ []) :
    (commentLines ('/' :: '*' :: inside)).getLast nonempty ≠ [] := by
  obtain ⟨line, others, whole, set⟩ := exists_commentLines (List.forall_mem_nil _) belongs
  rw [unfinished_of_closed belongs, List.append_nil] at whole
  simp only [whole]
  cases others with
  | nil => simp
  | cons next more =>
      have last := set.getLast (by simp)
      rw [List.getLast_cons_cons] at last ⊢
      exact last.endsInked.ne_nil

/-- No line is left out at the end of a closed comment. -/
theorem rdropWhile_commentLines {inside : List Char} (belongs : Piece.CommentInside true inside)
    (indentation : List Char) :
    (commentLines ('/' :: '*' :: inside)).rdropWhile
      (fun line => indentation.isEmpty && line.isEmpty) = commentLines ('/' :: '*' :: inside) := by
  rw [List.rdropWhile_eq_self_iff]
  intro nonempty empty
  simp only [Bool.and_eq_true, List.isEmpty_iff] at empty
  exact getLast_commentLines_ne_nil belongs nonempty empty.2

/-- **Closing marks of laid-out comments.** What stands behind the opening mark of a comment is
closed exactly where it was, however its lines are set. -/
theorem commentInside_settledComment {closed : Bool} {indentation inside : List Char}
    (indents : ∀ character ∈ indentation, isBlank character = true)
    (belongs : Piece.CommentInside closed inside) :
    ∃ settled, settledComment indentation ('/' :: '*' :: inside) = '/' :: '*' :: settled ∧
      Piece.CommentInside closed settled := by
  obtain ⟨line, others, whole, set⟩ := exists_commentLines indents belongs
  cases closed with
  | true =>
      rw [unfinished_of_closed belongs, List.append_nil] at whole
      refine ⟨_, ?_, set⟩
      rw [settledComment, rdropWhile_commentLines belongs, whole]
      simp only [List.intercalate_cons_cons_left]
  | false =>
      obtain ⟨next, shape⟩ : ∃ next, commentLines ('/' :: '*' :: inside) =
          ('/' :: '*' :: line) :: next ∧ next <+: others := by
        cases shape : commentLines ('/' :: '*' :: inside) with
        | nil =>
            rw [shape, List.nil_append, unfinished] at whole
            split at whole <;> simp at whole
        | cons head next =>
            rw [shape, List.cons_append, List.cons.injEq] at whole
            exact ⟨next, by rw [whole.1], _, whole.2⟩
      rw [settledComment, shape.1]
      cases kept : (('/' :: '*' :: line) :: next).rdropWhile
          (fun line => indentation.isEmpty && line.isEmpty) with
      | nil =>
          have empty := List.rdropWhile_eq_nil_iff.mp kept _ (List.mem_cons_self ..)
          simp at empty
      | cons head rest =>
          have shorter := List.rdropWhile_prefix (fun line => indentation.isEmpty && line.isEmpty)
            (l := ('/' :: '*' :: line) :: next)
          rw [kept, List.cons_prefix_cons] at shorter
          refine ⟨_, ?_, set.of_prefix indents (shorter.2.trans shape.2)⟩
          rw [shorter.1]
          simp only [List.intercalate_cons_cons_left]

/-- The lines left out at the end of a comment are empty. -/
theorem commentLines_eq_append (indentation comment : List Char) :
    ∃ count, commentLines comment =
      ((commentLines comment).rdropWhile fun line => indentation.isEmpty && line.isEmpty) ++
        List.replicate count [] := by
  refine ⟨((commentLines comment).rtakeWhile fun line =>
    indentation.isEmpty && line.isEmpty).length, ?_⟩
  conv_lhs => rw [← List.rdropWhile_append_rtakeWhile
    (p := fun line => indentation.isEmpty && line.isEmpty) (l := commentLines comment)]
  congr 1
  rw [List.eq_replicate_iff]
  refine ⟨rfl, fun line member => ?_⟩
  have empty := List.mem_rtakeWhile_imp member
  simp only [Bool.and_eq_true, List.isEmpty_iff] at empty
  exact empty.2

/-- Laying out the lines of a comment keeps their ink. -/
theorem flatMap_ink_settledLines (lines : List (List Char)) :
    (settledLines lines).flatMap ink = lines.flatMap ink := by
  have set : ∀ line, ink (commentLine line) = ink line := by
    intro line
    rw [← ink_trim, trim_commentLine, ink_trim]
  cases lines with
  | nil => rfl
  | cons first others => simp [settledLines, List.flatMap_map, set]

/-- Laying a comment out keeps its ink. -/
theorem ink_settledComment {indentation : List Char}
    (indents : ∀ character ∈ indentation, isBlank character = true) (comment : List Char) :
    ink (settledComment indentation comment) = ink comment := by
  obtain ⟨count, left⟩ := commentLines_eq_append indentation comment
  have ending : (unfinished comment).flatMap ink = [] := by
    unfold unfinished
    split <;> rfl
  calc ink (settledComment indentation comment)
      = (commentLines comment).flatMap ink := by
        rw [settledComment, ink_intercalate indents]
        conv_rhs => rw [left]
        simp
    _ = (commentLines comment ++ unfinished comment).flatMap ink := by
        rw [List.flatMap_append, ending, List.append_nil]
    _ = (comment.splitOn '\n').flatMap ink := by
        rw [commentLines_append_unfinished, flatMap_ink_settledLines]
    _ = ink comment := by
        rw [← ink_intercalate (List.forall_mem_nil _), List.intercalate_splitOn]

/-- A starred line of a comment without the blanks around it. -/
theorem commentLine_starred {rest before after : List Char} (ends : EndsInked ('*' :: rest))
    (blankBefore : ∀ character ∈ before, isBlank character = true)
    (blankAfter : ∀ character ∈ after, isBlank character = true) :
    commentLine (before ++ '*' :: rest ++ after) = ' ' :: '*' :: rest := by
  have trimmed : trim (before ++ '*' :: rest ++ after) = '*' :: rest := by
    rw [trim_append_append_of_blank _ blankBefore blankAfter]
    exact trim_of_inked ⟨'*', rest, rfl, by decide⟩ ends
  rw [commentLine, trimmed]
  rfl

/-- A closed comment is laid out as its lines, each set by itself. -/
theorem settledComment_of_closed {inside : List Char} (belongs : Piece.CommentInside true inside)
    (indentation : List Char) :
    settledComment indentation ('/' :: '*' :: inside) =
      List.intercalate ('\n' :: indentation)
        (settledLines (('/' :: '*' :: inside).splitOn '\n')) := by
  rw [settledComment, rdropWhile_commentLines belongs, ← commentLines_append_unfinished,
    unfinished_of_closed belongs, List.append_nil]

/-- Laying out the lines of a comment keeps what they are trimmed to. -/
theorem map_trim_settledLines (lines : List (List Char)) :
    (settledLines lines).map trim = lines.map trim := by
  cases lines with
  | nil => rfl
  | cons first others => simp [settledLines]

/-- No laid-out line of a comment has a line feed in it. -/
theorem lineFeed_not_mem_of_mem_commentLines {comment line : List Char}
    (member : line ∈ commentLines comment) : '\n' ∉ line := by
  have trimmed : ∀ {line}, line ∈ Text.lines comment → '\n' ∉ trim line := by
    intro line member feed
    obtain ⟨before, after, _, _, whole⟩ := exists_append_trim_append line
    refine lineFeed_not_mem_of_mem_lines member ?_
    rw [whole]
    exact List.mem_append_left _ (List.mem_append_right _ feed)
  unfold commentLines at member
  cases cut : Text.lines comment with
  | nil => simp [cut] at member
  | cons first others =>
      rw [cut] at member trimmed
      rcases List.mem_cons.mp member with rfl | member
      · exact trimmed (List.mem_cons_self ..)
      · obtain ⟨other, among, rfl⟩ := List.mem_map.mp member
        obtain ⟨pad, short, shape⟩ := commentLine_eq other
        rw [shape, List.mem_append, not_or]
        refine ⟨?_, trimmed (List.mem_cons_of_mem _ among)⟩
        rcases short with rfl | rfl <;> simp

/-- Laying a comment out keeps its lines up to the blanks around them, but for empty ones that are
left out at its end. -/
theorem map_trim_splitOn_of_commentLines {indentation comment : List Char} (count : Nat)
    (indents : IsIndentation indentation) (nonempty : settledComment indentation comment ≠ [])
    (left : commentLines comment =
      ((commentLines comment).rdropWhile fun line => indentation.isEmpty && line.isEmpty) ++
        List.replicate count []) :
    (comment.splitOn '\n').map trim =
      ((settledComment indentation comment).splitOn '\n').map trim ++
        List.replicate (count + (unfinished comment).length) [] := by
  have among : ∀ line ∈ (commentLines comment).rdropWhile
      (fun line => indentation.isEmpty && line.isEmpty), line ∈ commentLines comment :=
    fun line member => List.IsPrefix.mem member (List.rdropWhile_prefix _ _)
  unfold settledComment at nonempty ⊢
  cases kept : (commentLines comment).rdropWhile
      (fun line => indentation.isEmpty && line.isEmpty) with
  | nil => exact absurd (by rw [kept]; rfl) nonempty
  | cons line lines =>
      rw [kept] at left among
      have spelled := map_trim_splitOn_intercalate indents isIndentation_nil
        fun other member => lineFeed_not_mem_of_mem_commentLines (among other member)
      rw [List.nil_append] at spelled
      have ending : (unfinished comment).map trim =
          List.replicate (unfinished comment).length [] := by
        unfold unfinished
        split <;> rfl
      rw [spelled, ← map_trim_settledLines, ← commentLines_append_unfinished, left,
        List.map_append, List.map_append, ending, List.map_replicate, List.append_assoc]
      exact congrArg _ List.replicate_append_replicate

/-- **Lines of laid-out comments.** A comment keeps its lines up to the blanks around them; one that
is not closed may lose blank lines at its end. -/
theorem map_trim_splitOn_settledComment {closed : Bool} {indentation inside : List Char}
    (indents : IsIndentation indentation) (belongs : Piece.CommentInside closed inside) :
    ∃ count, (('/' :: '*' :: inside).splitOn '\n').map trim =
      ((settledComment indentation ('/' :: '*' :: inside)).splitOn '\n').map trim ++
        List.replicate count [] ∧ (closed = true → count = 0) := by
  obtain ⟨settled, shape, _⟩ :=
    commentInside_settledComment (fun _ member => (indents _ member).1) belongs
  have nonempty : settledComment indentation ('/' :: '*' :: inside) ≠ [] := by
    rw [shape]
    exact List.cons_ne_nil _ _
  cases closed with
  | true =>
      refine ⟨_, map_trim_splitOn_of_commentLines 0 indents nonempty ?_, fun _ => ?_⟩
      · rw [rdropWhile_commentLines belongs]
        exact (List.append_nil _).symm
      · rw [unfinished_of_closed belongs]
        rfl
  | false =>
      obtain ⟨count, left⟩ := commentLines_eq_append indentation ('/' :: '*' :: inside)
      exact ⟨_, map_trim_splitOn_of_commentLines _ indents nonempty left,
        fun closes => absurd closes (by decide)⟩

end Draft

end ModelScribe

import ModelScribe.Layout
import ModelScribe.Proofs.Layout.Spot

/-! # Drafts and laid-out pieces

A draft between two pieces has no blanks at the ends of its line in progress
(`ModelScribe.Draft.Tidy`), and its text grows by what is laid out for each piece
at its spot (`ModelScribe.Draft.text_place`). So the text of a source's draft is
the text of the pieces laid out one after the other
(`ModelScribe.Layout.text_draft`).
-/

namespace ModelScribe

open Text

namespace Draft

/-- The text of finished lines, the last one first. -/
def joined (linesReversed : List (List Char)) : List Char :=
  List.intercalate ['\n'] (linesReversed.dropWhile List.isEmpty).reverse

theorem text_eq_joined (draft : Draft) : draft.text = joined draft.breakLine.linesReversed := rfl

/-- Where the next piece of a draft goes. -/
def spot (draft : Draft) : Spot where
  depth := draft.depth
  place :=
    if draft.current = [] then
      match draft.linesReversed with
      | [] => .textStart
      | line :: _ => .lineStart line.isEmpty
    else .inLine draft.spaceDue

/-- A draft between two pieces: no blanks around the line being written, and no two blank lines at
the end of the finished ones nor one at their beginning. -/
structure Tidy (draft : Draft) : Prop where
  current : draft.current = [] ∨ (BeginsInked draft.current ∧ EndsInked draft.current)
  lines : ∀ more, draft.linesReversed = [] :: more → ∃ line rest, more = line :: rest ∧ line ≠ []

/-- A line put behind others stands behind a line feed. -/
theorem intercalate_concat {lines : List (List Char)} (nonempty : lines ≠ []) (line : List Char) :
    List.intercalate ['\n'] (lines ++ [line]) = List.intercalate ['\n'] lines ++ '\n' :: line := by
  induction lines with
  | nil => exact absurd rfl nonempty
  | cons first more ih =>
      cases more with
      | nil => simp
      | cons second more =>
          have shorter := ih (List.cons_ne_nil _ _)
          simp only [List.cons_append, List.intercalate_cons_cons] at shorter ⊢
          rw [shorter]
          simp

/-- A last line with something on it is joined to the lines before it. -/
theorem joined_cons {line : List Char} (nonempty : line ≠ []) (more : List (List Char)) :
    joined (line :: more) = List.intercalate ['\n'] (more.reverse ++ [line]) := by
  have kept : line.isEmpty = false := by simpa using nonempty
  rw [joined, List.dropWhile_cons_of_neg (by simp [kept]), List.reverse_cons]

/-- Two lines that are not empty have one line break between them. -/
theorem joined_cons_cons {line before : List Char} (nonempty : line ≠ []) (inked : before ≠ [])
    (more : List (List Char)) :
    joined (line :: before :: more) = joined (before :: more) ++ '\n' :: line := by
  rw [joined_cons nonempty, joined_cons inked, List.reverse_cons,
    intercalate_concat (List.append_ne_nil_of_right_ne_nil _ (List.cons_ne_nil _ _))]

/-- A blank line makes for two line breaks. -/
theorem joined_cons_nil_cons {line before : List Char} (nonempty : line ≠ []) (inked : before ≠ [])
    (more : List (List Char)) :
    joined (line :: [] :: before :: more) =
      joined ([] :: before :: more) ++ '\n' :: '\n' :: line := by
  have skipped : joined ([] :: before :: more) = joined (before :: more) := rfl
  rw [joined_cons nonempty, skipped, joined_cons inked, List.reverse_cons, List.reverse_cons,
    intercalate_concat (List.append_ne_nil_of_right_ne_nil _ (List.cons_ne_nil _ _)),
    intercalate_concat (List.append_ne_nil_of_right_ne_nil _ (List.cons_ne_nil _ _)),
    List.append_assoc]
  rfl

/-- More text on the last line stands at the end of the joined lines. -/
theorem joined_append {line : List Char} (nonempty : line ≠ []) (text : List Char)
    (more : List (List Char)) :
    joined ((line ++ text) :: more) = joined (line :: more) ++ text := by
  rw [joined_cons nonempty, joined_cons (List.append_ne_nil_of_left_ne_nil nonempty _)]
  by_cases alone : more.reverse = []
  · simp [alone]
  · rw [intercalate_concat alone, intercalate_concat alone, List.append_assoc]
    rfl

/-- Where the line is empty, the spot depends on the line before it. -/
theorem spot_of_current_nil {draft : Draft} (fresh : draft.current = []) :
    draft.spot.place = match draft.linesReversed with
      | [] => .textStart
      | line :: _ => .lineStart line.isEmpty := by
  simp [spot, fresh]

/-- A line that is not empty stands behind the finished lines and the gap of its spot. -/
theorem joined_indentation_cons {draft : Draft} (tidy : draft.Tidy) (fresh : draft.current = [])
    {line : List Char} (nonempty : line ≠ []) :
    joined ((draft.indentation ++ line) :: draft.linesReversed) =
      joined draft.linesReversed ++ draft.spot.gap draft.unit ++ line := by
  have whole : draft.indentation ++ line ≠ [] := List.append_ne_nil_of_right_ne_nil _ nonempty
  have place := spot_of_current_nil fresh
  cases finished : draft.linesReversed with
  | nil =>
      rw [finished] at place
      rw [Spot.gap, place, joined_cons whole]
      simp [joined, Spot.indentation, indentation, spot]
  | cons last more =>
      rw [finished] at place
      rw [Spot.gap, place]
      cases last with
      | nil =>
          obtain ⟨before, rest, rfl, inked⟩ := tidy.lines more finished
          rw [joined_cons_nil_cons whole inked]
          simp [Spot.indentation, indentation, spot]
      | cons character last =>
          rw [joined_cons_cons whole (List.cons_ne_nil _ _)]
          simp [Spot.indentation, indentation, spot]

theorem breakLine_of_current_nil {draft : Draft} (fresh : draft.current = []) :
    draft.breakLine.linesReversed = draft.linesReversed := by
  simp [breakLine, fresh, trim, trimStart, trimEnd]

/-- Ending a line that is not blank adds it, trimmed and indented. -/
theorem linesReversed_breakLine {draft : Draft} (inked : trim draft.current ≠ []) :
    draft.breakLine.linesReversed =
      (draft.indentation ++ trim draft.current) :: draft.linesReversed := by
  simp [breakLine, inked]

/-- Writing something that begins with ink adds it to the text behind the gap of its spot, without
the blanks at its end. -/
theorem text_write {draft : Draft} (tidy : draft.Tidy) {text : List Char}
    (begins : BeginsInked text) :
    (draft.write text).text = draft.text ++ draft.spot.gap draft.unit ++ trimEnd text := by
  have kept : trimEnd text ≠ [] := begins.trimEnd.ne_nil
  rcases tidy.current with fresh | ⟨beginsLine, endsLine⟩
  · have written : (draft.write text).current = text := by simp [fresh]
    have trimmed : trim (draft.write text).current = trimEnd text := by
      rw [written, trim_of_beginsInked begins]
    rw [text_eq_joined, linesReversed_breakLine (trimmed ▸ kept), trimmed, text_eq_joined,
      breakLine_of_current_nil fresh]
    exact joined_indentation_cons tidy fresh kept
  · have before : trim draft.current = draft.current := trim_of_inked beginsLine endsLine
    have written : (draft.write text).current =
        draft.current ++ (draft.spot.gap draft.unit ++ text) := by
      simp [Spot.gap, spot, beginsLine.ne_nil]
    have trimmed : trim (draft.write text).current =
        draft.current ++ (draft.spot.gap draft.unit ++ trimEnd text) := by
      rw [written, trim_of_beginsInked (beginsLine.append _), ← List.append_assoc,
        trimEnd_append_of_beginsInked _ begins, List.append_assoc]
    have inked : trim (draft.write text).current ≠ [] := by
      rw [trimmed]
      exact List.append_ne_nil_of_left_ne_nil beginsLine.ne_nil _
    rw [text_eq_joined, linesReversed_breakLine inked, trimmed, text_eq_joined,
      linesReversed_breakLine (by rw [before]; exact beginsLine.ne_nil), before,
      List.append_assoc (joined _),
      ← joined_append (List.append_ne_nil_of_right_ne_nil _ beginsLine.ne_nil),
      List.append_assoc draft.indentation]
    rfl

/-- Writing a word keeps a draft tidy. -/
theorem tidy_write {draft : Draft} (tidy : draft.Tidy) {text : List Char}
    (begins : BeginsInked text) (ends : EndsInked text) : (draft.write text).Tidy where
  current := by
    right
    rw [current_write]
    refine ⟨?_, (ends.append _).append _⟩
    rcases tidy.current with fresh | ⟨beginsLine, _⟩
    · simpa [fresh] using begins
    · exact beginsLine.append _
  lines := tidy.lines

/-- Behind a word, the spot is inside the line and no space is due. -/
theorem spot_write (draft : Draft) {text : List Char} (nonempty : text ≠ []) :
    (draft.write text).spot = ⟨draft.depth, .inLine false⟩ := by
  have begun : (draft.write text).current ≠ [] := by simp [nonempty]
  simp only [spot, begun, ↓reduceIte]
  rfl

/-- Ending the line does not change the text. -/
theorem text_breakLine (draft : Draft) : draft.breakLine.text = draft.text := by
  rw [text_eq_joined, breakLine_of_current_nil (current_breakLine draft), text_eq_joined]

/-- Ending a line keeps a draft tidy. -/
theorem tidy_breakLine {draft : Draft} (tidy : draft.Tidy) : draft.breakLine.Tidy where
  current := .inl rfl
  lines := by
    by_cases empty : trim draft.current = []
    · have same : draft.breakLine.linesReversed = draft.linesReversed := by
        simp [breakLine, empty]
      rw [same]
      exact tidy.lines
    · rw [linesReversed_breakLine empty]
      intro more same
      rw [List.cons.injEq, List.append_eq_nil_iff] at same
      exact absurd same.1.2 empty

/-- Behind the end of a line that is not blank, the spot is at the start of the next. -/
theorem spot_breakLine_of_inked {draft : Draft} (inked : trim draft.current ≠ []) :
    draft.breakLine.spot = ⟨draft.depth, .lineStart false⟩ := by
  have line : (draft.indentation ++ trim draft.current).isEmpty = false := by simp [inked]
  simp only [spot, current_breakLine, ↓reduceIte, linesReversed_breakLine inked, line]
  rfl

/-- The spot behind the end of a line is the one that the spot before it leads to. -/
theorem spot_breakLine {draft : Draft} (tidy : draft.Tidy) :
    draft.breakLine.spot = draft.spot.breakLine := by
  rcases tidy.current with fresh | ⟨begins, ends⟩
  · have same : draft.breakLine.spot = draft.spot := by
      simp only [spot, current_breakLine, fresh, ↓reduceIte, breakLine_of_current_nil fresh]
      rfl
    have place := spot_of_current_nil fresh
    cases finished : draft.linesReversed with
    | nil =>
        rw [finished] at place
        simp only [same, Spot.breakLine, place]
    | cons line more =>
        rw [finished] at place
        simp only [same, Spot.breakLine, place]
  · have inked : trim draft.current ≠ [] := by
      rw [trim_of_inked begins ends]
      exact begins.ne_nil
    have place : draft.spot.place = .inLine draft.spaceDue := by simp [spot, begins.ne_nil]
    rw [spot_breakLine_of_inked inked, Spot.breakLine, place]
    rfl

theorem text_of_current_nil {draft : Draft} (fresh : draft.current = []) :
    draft.text = joined draft.linesReversed := by
  rw [text_eq_joined, breakLine_of_current_nil fresh]

/-- Writing closing punctuation is writing with no space due. -/
theorem attach_eq_write (text : List Char) (draft : Draft) :
    draft.attach text = { draft with spaceDue := false }.write text := rfl

theorem tidy_hug {draft : Draft} (tidy : draft.Tidy) :
    ({ draft with spaceDue := false } : Draft).Tidy := ⟨tidy.current, tidy.lines⟩

/-- Dropping the space that is due does to the spot what hugging does. -/
theorem spot_hug (draft : Draft) : { draft with spaceDue := false }.spot = draft.spot.hug := by
  have same : ({ draft with spaceDue := false } : Draft).current = draft.current := rfl
  unfold spot Spot.hug
  rw [same]
  by_cases fresh : draft.current = []
  · cases finished : draft.linesReversed with
    | nil => simp [fresh]
    | cons line more => simp [fresh]
  · simp [fresh]

/-- Closing punctuation follows the text without a space. -/
theorem text_attach {draft : Draft} (tidy : draft.Tidy) {text : List Char}
    (begins : BeginsInked text) :
    (draft.attach text).text = draft.text ++ draft.spot.hug.gap draft.unit ++ trimEnd text := by
  rw [attach_eq_write, text_write (tidy_hug tidy) begins, spot_hug]
  rfl

theorem tidy_attach {draft : Draft} (tidy : draft.Tidy) {text : List Char}
    (begins : BeginsInked text) (ends : EndsInked text) : (draft.attach text).Tidy :=
  tidy_write (tidy_hug tidy) begins ends

theorem spot_attach (draft : Draft) {text : List Char} (nonempty : text ≠ []) :
    (draft.attach text).spot = ⟨draft.depth, .inLine false⟩ :=
  spot_write { draft with spaceDue := false } nonempty

/-- Something is left of a line on which ink has been written. -/
theorem trim_current_write_ne_nil {draft : Draft} (tidy : draft.Tidy) {text : List Char}
    (begins : BeginsInked text) : trim (draft.write text).current ≠ [] := by
  have beginsLine : BeginsInked (draft.write text).current := by
    rw [current_write]
    rcases tidy.current with fresh | ⟨beginsLine, _⟩
    · simpa [fresh] using begins
    · exact beginsLine.append _
  rw [trim_of_beginsInked beginsLine]
  exact beginsLine.trimEnd.ne_nil

/-- Asking for a space does to the spot what blanks without line feeds do. -/
theorem spot_spaceDue (draft : Draft) :
    { draft with spaceDue := true }.spot = draft.spot.pause 0 := by
  have same : ({ draft with spaceDue := true } : Draft).current = draft.current := rfl
  unfold spot Spot.pause
  rw [same]
  by_cases fresh : draft.current = []
  · cases finished : draft.linesReversed with
    | nil => simp [fresh]
    | cons line more => simp [fresh]
  · simp [fresh]

/-- A blank line at the end is not part of the text. -/
theorem text_leaveBlank {draft : Draft} (fresh : draft.current = []) :
    draft.leaveBlank.text = draft.text := by
  unfold leaveBlank
  split
  · rfl
  · rfl
  · calc ({ draft with linesReversed := [] :: draft.linesReversed } : Draft).text
        = joined ([] :: draft.linesReversed) := text_of_current_nil fresh
      _ = draft.text := (text_of_current_nil fresh).symm

/-- Leaving a line blank keeps a draft tidy. -/
theorem tidy_leaveBlank {draft : Draft} (tidy : draft.Tidy) : draft.leaveBlank.Tidy := by
  unfold leaveBlank
  split
  · exact tidy
  · exact tidy
  · next noText noBlank =>
      refine ⟨tidy.current, fun more same => ?_⟩
      obtain rfl : draft.linesReversed = more := (List.cons.inj same).2
      cases finished : draft.linesReversed with
      | nil => exact absurd finished noText
      | cons line rest =>
          refine ⟨line, rest, rfl, ?_⟩
          rintro rfl
          exact noBlank rest finished

/-- The spot behind a blank line is the one that the spot before it leads to. -/
theorem spot_leaveBlank {draft : Draft} (fresh : draft.current = []) :
    draft.leaveBlank.spot = draft.spot.leaveBlank := by
  have place := spot_of_current_nil fresh
  unfold leaveBlank
  split
  · next finished =>
      rw [finished] at place
      simp only [Spot.leaveBlank, place]
  · next more finished =>
      rw [finished] at place
      have same : draft.spot = ⟨draft.depth, .lineStart true⟩ := by
        simp only [spot, fresh, ↓reduceIte, finished]
        rfl
      simp only [same, Spot.leaveBlank]
  · next noText noBlank =>
      obtain ⟨line, more, finished⟩ := List.exists_cons_of_ne_nil noText
      rw [finished] at place
      have current : ({ draft with linesReversed := [] :: draft.linesReversed } : Draft).current
          = [] := fresh
      have blank : draft.spot.leaveBlank = ⟨draft.depth, .lineStart true⟩ := by
        rw [Spot.leaveBlank, place]
        rfl
      rw [blank]
      simp only [spot, current, ↓reduceIte]
      rfl

/-- Blanks at the end are not part of the text. -/
theorem text_gap (lineFeeds : Nat) (draft : Draft) : (draft.gap lineFeeds).text = draft.text := by
  unfold gap
  split
  · rfl
  · split
    · rw [text_leaveBlank (current_breakLine draft), text_breakLine]
    · exact text_breakLine draft

/-- Blanks keep a draft tidy. -/
theorem tidy_gap {draft : Draft} (tidy : draft.Tidy) (lineFeeds : Nat) :
    (draft.gap lineFeeds).Tidy := by
  unfold gap
  split
  · exact ⟨tidy.current, tidy.lines⟩
  · split
    · exact tidy_leaveBlank (tidy_breakLine tidy)
    · exact tidy_breakLine tidy

/-- Blanks do to the spot what as many line feeds do. -/
theorem spot_gap {draft : Draft} (tidy : draft.Tidy) (lineFeeds : Nat) :
    (draft.gap lineFeeds).spot = draft.spot.pause lineFeeds := by
  have depth : draft.spot.depth = draft.depth := rfl
  unfold gap Spot.pause
  rw [depth]
  by_cases within : 0 < draft.depth ∨ lineFeeds = 0
  · rw [if_pos within, if_pos within, spot_spaceDue, Spot.pause, if_pos (.inr rfl)]
    rfl
  · rw [if_neg within, if_neg within]
    by_cases several : 2 ≤ lineFeeds
    · rw [if_pos several, if_pos several, spot_leaveBlank (current_breakLine draft),
        spot_breakLine tidy]
    · rw [if_neg several, if_neg several, spot_breakLine tidy]

/-- Going deeper on a fresh line does not change the text. -/
theorem text_deepen {draft : Draft} (fresh : draft.current = []) (depth : Nat) :
    { draft with depth := depth }.text = draft.text := by
  calc ({ draft with depth := depth } : Draft).text
      = joined draft.linesReversed := text_of_current_nil fresh
    _ = draft.text := (text_of_current_nil fresh).symm

theorem text_enter (draft : Draft) : draft.enter.text = draft.text := by
  rw [← text_breakLine draft]
  exact text_deepen (current_breakLine draft) (draft.depth + 1)

theorem tidy_enter {draft : Draft} (tidy : draft.breakLine.Tidy) : draft.enter.Tidy :=
  ⟨.inl rfl, tidy.lines⟩

/-- Behind an opening brace, the spot is one level deeper at the start of a line. -/
theorem spot_enter {draft : Draft} (inked : trim draft.current ≠ []) :
    draft.enter.spot = ⟨draft.depth + 1, .lineStart false⟩ := by
  have place := congrArg Spot.place (spot_breakLine_of_inked inked)
  exact congrArg (Spot.mk (draft.depth + 1)) place

/-- A closing brace is written on a fresh line, one level less deep. -/
theorem leave_eq_write (draft : Draft) :
    draft.leave = { draft.breakLine with depth := draft.depth - 1 }.write ['}'] := rfl

theorem tidy_deepen {draft : Draft} (tidy : draft.Tidy) (depth : Nat) :
    ({ draft with depth := depth } : Draft).Tidy := ⟨tidy.current, tidy.lines⟩

/-- A closing brace stands behind the gap of its spot, one level less deep. -/
theorem text_leave {draft : Draft} (tidy : draft.Tidy) :
    draft.leave.text = draft.text ++
      Spot.gap draft.unit ⟨draft.depth - 1, draft.spot.breakLine.place⟩ ++ ['}'] := by
  have place := congrArg Spot.place (spot_breakLine tidy)
  rw [leave_eq_write, text_write (tidy_deepen (tidy_breakLine tidy) _) ⟨'}', [], rfl, by decide⟩,
    text_deepen (current_breakLine draft), text_breakLine, ← place]
  rfl

/-- A closing brace keeps a draft tidy. -/
theorem tidy_leave {draft : Draft} (tidy : draft.Tidy) : draft.leave.Tidy := by
  rw [leave_eq_write]
  exact tidy_write (tidy_deepen (tidy_breakLine tidy) _) ⟨'}', [], rfl, by decide⟩
    ⟨[], '}', rfl, by decide⟩

theorem spot_leave (draft : Draft) : draft.leave.spot = ⟨draft.depth - 1, .inLine false⟩ := by
  rw [leave_eq_write]
  exact spot_write _ (List.cons_ne_nil _ _)

/-- Lines behind a line stand behind a line feed each. -/
theorem intercalate_append_cons (before : List (List Char)) (line : List Char)
    (more : List (List Char)) :
    List.intercalate ['\n'] (before ++ line :: more) =
      List.intercalate ['\n'] (before ++ [line]) ++ more.flatMap ('\n' :: ·) := by
  induction more generalizing before line with
  | nil => simp
  | cons next more ih =>
      have onward := ih (before ++ [line]) next
      rw [List.append_assoc, List.singleton_append] at onward
      rw [onward, intercalate_concat (by simp), List.flatMap_cons, List.append_assoc]

/-- Lines joined with indentation are lines of their own, each indented. -/
theorem intercalate_lineFeed_cons (indentation line : List Char) (more : List (List Char)) :
    List.intercalate ('\n' :: indentation) (line :: more) =
      line ++ (more.map (indentation ++ ·)).flatMap ('\n' :: ·) := by
  induction more generalizing line with
  | nil => simp
  | cons next more ih =>
      rw [List.intercalate_cons_cons, ih, List.map_cons, List.flatMap_cons, List.append_assoc]
      simp

/-- The finished lines behind a comment, without empty ones at their end. -/
theorem dropWhile_indented (indentation : List Char) (comment : List (List Char))
    {kept : List (List Char)} (nonempty : kept ≠ [])
    (cut : comment.rdropWhile (fun line => indentation.isEmpty && line.isEmpty) = kept)
    (linesReversed : List (List Char)) :
    (((comment.map (indentation ++ ·)).reverse ++ linesReversed).dropWhile List.isEmpty).reverse =
      linesReversed.reverse ++ kept.map (indentation ++ ·) := by
  have dropped : (comment.map (indentation ++ ·)).reverse.dropWhile List.isEmpty =
      (kept.map (indentation ++ ·)).reverse := by
    have same : (List.isEmpty ∘ (indentation ++ ·)) =
        fun line : List Char => indentation.isEmpty && line.isEmpty := by
      funext line
      cases indentation <;> rfl
    rw [← List.map_reverse, List.dropWhile_map, same, ← cut, List.rdropWhile, ← List.map_reverse,
      List.reverse_reverse]
  have some : ((kept.map (indentation ++ ·)).reverse).isEmpty = false := by simpa using nonempty
  rw [List.dropWhile_append, dropped, some]
  simp

/-- A comment goes on a line of its own, laid out at the indentation there. -/
theorem text_comment {draft : Draft} (tidy : draft.Tidy) {closed : Bool} {inside : List Char}
    (indents : ∀ character ∈ draft.indentation, isBlank character = true)
    (belongs : Piece.CommentInside closed inside) :
    (draft.comment ('/' :: '*' :: inside)).text = draft.text ++
      draft.spot.breakLine.gap draft.unit ++
        settledComment draft.indentation ('/' :: '*' :: inside) := by
  obtain ⟨settled, shape, _⟩ := commentInside_settledComment indents belongs
  unfold settledComment at shape ⊢
  cases cut : (commentLines ('/' :: '*' :: inside)).rdropWhile
      (fun line => draft.indentation.isEmpty && line.isEmpty) with
  | nil => simp [cut] at shape
  | cons line more =>
      rw [cut, intercalate_lineFeed_cons] at shape
      have nonempty : line ≠ [] := by
        rintro rfl
        cases more <;> simp at shape
      have first := joined_indentation_cons (tidy_breakLine tidy) (current_breakLine draft) nonempty
      rw [joined_cons (List.append_ne_nil_of_right_ne_nil _ nonempty)] at first
      rw [text_of_current_nil (current_comment _ draft), intercalate_lineFeed_cons]
      have finished := dropWhile_indented draft.indentation _ (List.cons_ne_nil line more) cut
        draft.breakLine.linesReversed
      calc joined (draft.comment ('/' :: '*' :: inside)).linesReversed
          = List.intercalate ['\n'] (draft.breakLine.linesReversed.reverse ++
              (line :: more).map (draft.indentation ++ ·)) :=
            congrArg (List.intercalate ['\n']) finished
        _ = draft.text ++ draft.spot.breakLine.gap draft.unit ++ line ++
              (more.map (draft.indentation ++ ·)).flatMap ('\n' :: ·) := by
            rw [List.map_cons, intercalate_append_cons, ← spot_breakLine tidy,
              ← text_breakLine draft, text_of_current_nil (current_breakLine draft)]
            exact congrArg (· ++ _) first
        _ = _ := by rw [List.append_assoc _ line]

/-- A closed comment ends the line. -/
theorem linesReversed_comment_of_closed (draft : Draft) {inside : List Char}
    (belongs : Piece.CommentInside true inside) :
    ∃ line more, (draft.comment ('/' :: '*' :: inside)).linesReversed = line :: more ∧
      line ≠ [] := by
  have written : commentLines ('/' :: '*' :: inside) ≠ [] := commentLines_ne_nil (by simp)
  have last := getLast_commentLines_ne_nil belongs written
  have whole := List.dropLast_append_getLast written
  refine ⟨draft.indentation ++ (commentLines ('/' :: '*' :: inside)).getLast written,
    ((commentLines ('/' :: '*' :: inside)).dropLast.map (draft.indentation ++ ·)).reverse ++
      draft.breakLine.linesReversed, ?_, List.append_ne_nil_of_right_ne_nil _ last⟩
  have cut := congrArg (fun lines => (lines.map (draft.indentation ++ ·)).reverse ++
    draft.breakLine.linesReversed) whole
  simp only [List.map_append, List.map_singleton, List.reverse_append, List.reverse_singleton,
    List.cons_append] at cut
  exact cut.symm

/-- A block comment leaves a tidy draft, whatever was there before. -/
theorem tidy_comment (draft : Draft) {inside : List Char}
    (belongs : Piece.CommentInside true inside) :
    (draft.comment ('/' :: '*' :: inside)).Tidy := by
  obtain ⟨line, before, shape, nonempty⟩ := linesReversed_comment_of_closed draft belongs
  refine ⟨.inl rfl, fun more same => ?_⟩
  rw [shape, List.cons.injEq] at same
  exact absurd same.1 nonempty

/-- Behind a block comment, the spot is at the start of a line. -/
theorem spot_comment (draft : Draft) {inside : List Char}
    (belongs : Piece.CommentInside true inside) :
    (draft.comment ('/' :: '*' :: inside)).spot = ⟨draft.depth, .lineStart false⟩ := by
  obtain ⟨line, before, shape, nonempty⟩ := linesReversed_comment_of_closed draft belongs
  have ended : line.isEmpty = false := by simpa using nonempty
  simp only [spot, current_comment, ↓reduceIte, shape, ended]
  rfl

end Draft

/-- A piece that is no gap begins with something to see. -/
theorem Piece.beginsInked_of_stands {piece : Piece} {rest : List Char} (stands : piece.Stands rest)
    (notBlank : ∀ gap, piece ≠ .blanks gap) : BeginsInked piece.text := by
  cases piece with
  | literal text =>
      obtain ⟨quote, inside, closed, quoted, rfl, _⟩ := stands
      exact ⟨quote, inside, rfl, isBlank_of_isQuote quoted⟩
  | blockComment text =>
      obtain ⟨inside, _, rfl, _⟩ := stands
      exact ⟨'/', '*' :: inside, rfl, by decide⟩
  | lineComment text =>
      obtain ⟨inside, rfl, _⟩ := stands
      exact ⟨'/', '/' :: inside, rfl, by decide⟩
  | blanks text => exact absurd rfl (notBlank text)
  | openBrace => exact ⟨'{', [], rfl, by decide⟩
  | emptyBraces gap => exact ⟨'{', gap ++ ['}'], rfl, by decide⟩
  | closeBrace => exact ⟨'}', [], rfl, by decide⟩
  | comma => exact ⟨',', [], rfl, by decide⟩
  | semicolon => exact ⟨';', [], rfl, by decide⟩
  | closer character =>
      simp only [Stands, isCloser, Bool.or_eq_true, beq_iff_eq] at stands
      rcases stands with rfl | rfl <;> exact ⟨_, [], rfl, by decide⟩
  | plain character =>
      have plain := stands.1
      simp only [isPlain, Bool.not_eq_true', Bool.or_eq_false_iff] at plain
      exact ⟨character, [], rfl, plain.1.1.2⟩

/-- A closed literal ends with ink. -/
theorem Piece.LiteralInside.endsInked {quote : Char} {inside : List Char}
    (quoted : isQuote quote = true) (belongs : LiteralInside quote true inside) :
    EndsInked inside := by
  generalize closes : true = closed at belongs
  induction belongs with
  | nil => exact absurd closes (by decide)
  | backslash => exact absurd closes (by decide)
  | quote => exact ⟨[], quote, rfl, isBlank_of_isQuote quoted⟩
  | escape escaped _ ih => exact (ih closes).append ['\\', escaped]
  | @character _ character _ _ _ _ ih => exact (ih closes).append [character]

/-- Trimming a literal at its end leaves it as it is, closed or open. -/
theorem Piece.exists_trimEnd_literal {quote : Char} {closed : Bool} {inside : List Char}
    (quoted : isQuote quote = true) (belongs : LiteralInside quote closed inside) :
    ∃ kept, trimEnd (quote :: inside) = quote :: kept ∧ LiteralInside quote closed kept ∧
      (closed = true → kept = inside) := by
  rw [trimEnd_cons_of_inked (isBlank_of_isQuote quoted)]
  refine ⟨trimEnd inside, rfl, ?_⟩
  cases closed with
  | true =>
      rw [trimEnd_of_endsInked (belongs.endsInked quoted)]
      exact ⟨belongs, fun _ => rfl⟩
  | false =>
      have shorter := belongs.of_prefix (List.rdropWhile_prefix isBlank _)
      exact ⟨shorter, fun ends => absurd ends (by decide)⟩

namespace Draft

/-- Placing a piece does not change the unit of indentation. -/
theorem unit_place (draft : Draft) (piece : Piece) : (draft.place piece).unit = draft.unit := by
  cases piece with
  | blanks text =>
      simp only [place, gap]
      split
      · rfl
      · split
        · unfold leaveBlank
          split <;> rfl
        · rfl
  | comma =>
      simp only [place, placeComma]
      split <;> rfl
  | _ => rfl

variable {draft : Draft} {piece : Piece} {rest : List Char}

/-- **Text of a placed piece.** Placing a piece adds what is laid out for it at its spot. -/
theorem text_place (tidy : draft.Tidy) (stands : piece.Stands rest)
    (indents : ∀ character ∈ draft.indentation, isBlank character = true) :
    (draft.place piece).text =
      draft.text ++ (Layout.layPiece draft.unit draft.spot piece).flatMap Piece.text := by
  by_cases gap : ∃ text, piece = .blanks text
  · obtain ⟨text, rfl⟩ := gap
    rw [place, text_gap]
    exact (List.append_nil _).symm
  have notBlank : ∀ text, piece ≠ .blanks text := fun text same => gap ⟨text, same⟩
  have begins := Piece.beginsInked_of_stands stands notBlank
  rw [Layout.flatMap_text_layPiece _ _ notBlank, ← List.append_assoc]
  cases piece with
  | literal text => exact text_write tidy begins
  | blockComment text =>
      obtain ⟨inside, closed, rfl, belongs, _⟩ := stands
      have level : draft.spot.breakLine.indentation draft.unit = draft.indentation := by
        rw [Spot.indentation, Spot.depth_breakLine]
        rfl
      rw [place, text_comment tidy indents belongs, ← level]
      rfl
  | lineComment text =>
      rw [place, text_breakLine]
      exact text_write tidy begins
  | blanks text => exact absurd rfl (notBlank text)
  | openBrace =>
      rw [place, text_enter]
      exact text_write tidy begins
  | emptyBraces gap =>
      have opening : BeginsInked ['{'] := ⟨'{', [], rfl, by decide⟩
      rw [place, text_attach (tidy_write tidy opening ⟨[], '{', rfl, by decide⟩)
        ⟨'}', [], rfl, by decide⟩, text_write tidy opening, spot_write draft (List.cons_ne_nil _ _),
        List.append_assoc, List.append_assoc (draft.text ++ draft.spot.gap draft.unit)]
      rfl
  | closeBrace => exact text_leave tidy
  | comma =>
      simp only [place, placeComma]
      split
      · rw [text_breakLine]
        exact text_attach tidy begins
      · exact text_attach tidy begins
  | semicolon =>
      rw [place, text_breakLine]
      exact text_attach tidy begins
  | closer character =>
      calc (draft.attach [character]).text
          = draft.text ++ draft.spot.hug.gap draft.unit ++ trimEnd [character] :=
            text_attach tidy begins
        _ = draft.text ++ draft.spot.hug.gap draft.unit ++ [character] := by
            rw [trimEnd_of_endsInked (BeginsInked.endsInked begins)]
  | plain character =>
      calc (draft.write [character]).text
          = draft.text ++ draft.spot.gap draft.unit ++ trimEnd [character] :=
            text_write tidy begins
        _ = draft.text ++ draft.spot.gap draft.unit ++ [character] := by
            rw [trimEnd_of_endsInked (BeginsInked.endsInked begins)]

/-- A piece that is not at the end of the text leaves a tidy draft. -/
theorem tidy_place (tidy : draft.Tidy) (stands : piece.Stands rest) (onward : rest ≠ []) :
    (draft.place piece).Tidy := by
  by_cases gap : ∃ text, piece = .blanks text
  · obtain ⟨text, rfl⟩ := gap
    exact tidy_gap tidy _
  have begins := Piece.beginsInked_of_stands stands fun text same => gap ⟨text, same⟩
  cases piece with
  | literal text =>
      obtain ⟨quote, inside, closed, quoted, rfl, belongs, last⟩ := stands
      cases closed with
      | false => exact absurd (last rfl) onward
      | true => exact tidy_write tidy begins ((belongs.endsInked quoted).append [quote])
  | blockComment text =>
      obtain ⟨inside, closed, rfl, belongs, last⟩ := stands
      cases closed with
      | false => exact absurd (last rfl) onward
      | true => exact tidy_comment draft belongs
  | lineComment text =>
      have beginsComment : BeginsInked text := begins
      have inked := trim_current_write_ne_nil tidy beginsComment
      refine ⟨.inl rfl, fun more same => ?_⟩
      rw [place, linesReversed_breakLine inked, List.cons.injEq, List.append_eq_nil_iff] at same
      exact absurd same.1.2 inked
  | blanks text => exact absurd ⟨text, rfl⟩ gap
  | openBrace =>
      exact tidy_enter (tidy_breakLine (tidy_write tidy begins ⟨[], '{', rfl, by decide⟩))
  | emptyBraces gap =>
      have opening : BeginsInked ['{'] := ⟨'{', [], rfl, by decide⟩
      exact tidy_attach (tidy_write tidy opening ⟨[], '{', rfl, by decide⟩)
        ⟨'}', [], rfl, by decide⟩ ⟨[], '}', rfl, by decide⟩
  | closeBrace => exact tidy_leave tidy
  | comma =>
      have attached := tidy_attach tidy begins ⟨[], ',', rfl, by decide⟩
      simp only [place, placeComma]
      split
      · exact tidy_breakLine attached
      · exact attached
  | semicolon => exact tidy_breakLine (tidy_attach tidy begins ⟨[], ';', rfl, by decide⟩)
  | closer character => exact tidy_attach tidy begins (BeginsInked.endsInked begins)
  | plain character => exact tidy_write tidy begins (BeginsInked.endsInked begins)

/-- A piece that is not at the end of the text leads from spot to spot. -/
theorem spot_place (tidy : draft.Tidy) (stands : piece.Stands rest) (onward : rest ≠ []) :
    (draft.place piece).spot = draft.spot.after piece := by
  by_cases gap : ∃ text, piece = .blanks text
  · obtain ⟨text, rfl⟩ := gap
    exact spot_gap tidy _
  have begins := Piece.beginsInked_of_stands stands fun text same => gap ⟨text, same⟩
  cases piece with
  | literal text => exact spot_write draft begins.ne_nil
  | blockComment text =>
      obtain ⟨inside, closed, rfl, belongs, last⟩ := stands
      cases closed with
      | false => exact absurd (last rfl) onward
      | true => exact spot_comment draft belongs
  | lineComment text => exact spot_breakLine_of_inked (trim_current_write_ne_nil tidy begins)
  | blanks text => exact absurd ⟨text, rfl⟩ gap
  | openBrace => exact spot_enter (trim_current_write_ne_nil tidy begins)
  | emptyBraces gap => exact spot_attach (draft.write ['{']) (List.cons_ne_nil _ _)
  | closeBrace => exact spot_leave draft
  | comma =>
      have depth : draft.spot.depth = draft.depth := rfl
      have level : (draft.attach [',']).depth = draft.depth := rfl
      simp only [place, placeComma, Spot.after, depth, level]
      split
      · exact spot_breakLine_of_inked (trim_current_write_ne_nil (tidy_hug tidy) begins)
      · exact spot_attach draft (List.cons_ne_nil _ _)
  | semicolon => exact spot_breakLine_of_inked (trim_current_write_ne_nil (tidy_hug tidy) begins)
  | closer character => exact spot_attach draft begins.ne_nil
  | plain character => exact spot_write draft begins.ne_nil

/-- Placing pieces that stand one before the other adds what is laid out for them. -/
theorem text_foldl_place {pieces : List Piece} (tidy : draft.Tidy) (stand : Piece.AllStand pieces)
    (indents : ∀ character ∈ draft.unit, isBlank character = true) :
    (pieces.foldl place draft).text =
      draft.text ++ (Layout.lay draft.unit draft.spot pieces).flatMap Piece.text := by
  induction pieces generalizing draft with
  | nil => exact (List.append_nil _).symm
  | cons piece pieces ih =>
      have indented : ∀ character ∈ draft.indentation, isBlank character = true :=
        Spot.forall_mem_indentation indents draft.spot
      have placed := text_place tidy stand.1 indented
      rw [List.foldl_cons, Layout.lay, List.flatMap_append, ← List.append_assoc, ← placed]
      cases pieces with
      | nil => exact (List.append_nil _).symm
      | cons next pieces =>
          have onward : (next :: pieces).flatMap Piece.text ≠ [] := by
            obtain ⟨character, more, whole, _⟩ := Piece.first_of_stands stand.2.1
            rw [List.flatMap_cons, whole]
            exact List.cons_ne_nil _ _
          rw [ih (tidy_place tidy stand.1 onward) stand.2 (by rwa [unit_place]), unit_place,
            spot_place tidy stand.1 onward]

end Draft

/-- Options indent with blanks that are no line feeds. -/
theorem LayoutOptions.isIndentation_indentUnit (options : LayoutOptions) :
    IsIndentation options.indentUnit := by
  intro character member
  unfold indentUnit at member
  split at member
  · rw [List.mem_singleton.mp member]
    decide
  · rw [(List.mem_replicate.mp member).2]
    decide

/-- **Text of a layout.** A source is laid out piece by piece, each behind the gap of its spot. -/
theorem Layout.text_draft (options : LayoutOptions) (source : List Char) :
    (draft options source).text =
      (lay options.indentUnit .start (Piece.split source)).flatMap Piece.text := by
  have tidy : ({ unit := options.indentUnit } : Draft).Tidy :=
    ⟨.inl rfl, fun _ same => absurd same (List.cons_ne_nil _ _).symm⟩
  have stand := Piece.allStand_split source
  exact Draft.text_foldl_place tidy stand options.isIndentation_indentUnit.blank

end ModelScribe

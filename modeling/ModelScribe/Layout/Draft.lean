import ModelScribe.Layout.Options
import ModelScribe.Text.Blank

/-! # Drafts

The state of a layout in progress: the lines that are finished, the line being written, how many
braces are open, and whether a space is due. Braces, commas and semicolons end lines; blanks of the
source only ask for a space, or outside braces for a line break.

A draft is seen through `Draft.lines` and `Draft.current`, which are held back to front; the lemmas
say what each operation does to them.
-/

namespace ModelScribe

/-- A layout in progress. -/
structure Draft where
  /-- The characters of one level of indentation. -/
  unit : List Char
  /-- The finished lines, the last one first. -/
  linesReversed : List (List Char) := []
  /-- The characters of the line being written, without its indentation, the last one first. -/
  currentReversed : List Char := []
  /-- The number of open braces. -/
  depth : Nat := 0
  /-- Blanks have been read since the last character of the line. -/
  spaceDue : Bool := false

namespace Draft

/-- The finished lines, in order. -/
def lines (draft : Draft) : List (List Char) := draft.linesReversed.reverse

/-- The line being written, without its indentation. -/
def current (draft : Draft) : List Char := draft.currentReversed.reverse

/-- The indentation of the line being written. -/
def indentation (draft : Draft) : List Char :=
  (List.replicate draft.depth draft.unit).flatten

/-- Writes a word or an opening character, behind the space that is due. -/
def write (text : List Char) (draft : Draft) : Draft :=
  let space := if draft.spaceDue && !draft.currentReversed.isEmpty then [' '] else []
  { draft with
    currentReversed := text.reverse ++ (space ++ draft.currentReversed)
    spaceDue := false }

/-- Writes closing punctuation, which follows the last word without a space. -/
def attach (text : List Char) (draft : Draft) : Draft :=
  { draft with currentReversed := text.reverse ++ draft.currentReversed, spaceDue := false }

/-- Ends the line being written; a line without a word leaves no trace. -/
def breakLine (draft : Draft) : Draft :=
  let line := Text.trim draft.current
  { draft with
    linesReversed :=
      if line.isEmpty then draft.linesReversed
      else (draft.indentation ++ line) :: draft.linesReversed
    currentReversed := []
    spaceDue := false }

/-- Leaves a line blank, unless nothing or a blank line comes before it. -/
def leaveBlank (draft : Draft) : Draft :=
  match draft.linesReversed with
  | [] | [] :: _ => draft
  | _ => { draft with linesReversed := [] :: draft.linesReversed }

/-- Takes note of a run of blanks with so many line feeds. -/
def gap (lineFeeds : Nat) (draft : Draft) : Draft :=
  if 0 < draft.depth ∨ lineFeeds = 0 then { draft with spaceDue := true }
  else if 2 ≤ lineFeeds then draft.breakLine.leaveBlank
  else draft.breakLine

/-- Goes one level deeper behind an opening brace. -/
def enter (draft : Draft) : Draft :=
  let draft := draft.breakLine
  { draft with depth := draft.depth + 1 }

/-- Writes a closing brace at the start of a line, one level less deep. -/
def leave (draft : Draft) : Draft :=
  let draft := draft.breakLine
  { draft with depth := draft.depth - 1, currentReversed := ['}'] }

/-- A line of a block comment but its first: a leading star is set one space in. -/
def commentLine (line : List Char) : List Char :=
  match Text.trim line with
  | '*' :: rest => ' ' :: '*' :: rest
  | trimmed => trimmed

/-- The lines of a block comment without the blanks around each. -/
def commentLines (comment : List Char) : List (List Char) :=
  match Text.lines comment with
  | [] => []
  | first :: others => Text.trim first :: others.map commentLine

/-- Writes a block comment on lines of its own. -/
def comment (text : List Char) (draft : Draft) : Draft :=
  let draft := draft.breakLine
  let indented := (commentLines text).map (draft.indentation ++ ·)
  { draft with linesReversed := indented.reverse ++ draft.linesReversed }

@[simp]
theorem current_write (text : List Char) (draft : Draft) :
    (draft.write text).current =
      draft.current ++
        ((if draft.spaceDue && !draft.current.isEmpty then [' '] else []) ++ text) := by
  unfold write current
  cases draft.currentReversed with
  | nil => simp
  | cons last before => cases draft.spaceDue <;> simp

@[simp]
theorem lines_write (text : List Char) (draft : Draft) :
    (draft.write text).lines = draft.lines := rfl

@[simp]
theorem current_attach (text : List Char) (draft : Draft) :
    (draft.attach text).current = draft.current ++ text := by
  simp [attach, current]

@[simp]
theorem lines_attach (text : List Char) (draft : Draft) :
    (draft.attach text).lines = draft.lines := rfl

@[simp]
theorem current_breakLine (draft : Draft) : draft.breakLine.current = [] := rfl

/-- Ending a line adds it without the blanks around it, unless nothing is left of it. -/
theorem lines_breakLine (draft : Draft) :
    draft.breakLine.lines =
      draft.lines ++
        (if (Text.trim draft.current).isEmpty then []
          else [draft.indentation ++ Text.trim draft.current]) := by
  simp only [breakLine, lines]
  split <;> simp

@[simp]
theorem current_enter (draft : Draft) : draft.enter.current = [] := rfl

@[simp]
theorem lines_enter (draft : Draft) : draft.enter.lines = draft.breakLine.lines := rfl

@[simp]
theorem current_leave (draft : Draft) : draft.leave.current = ['}'] := rfl

@[simp]
theorem lines_leave (draft : Draft) : draft.leave.lines = draft.breakLine.lines := rfl

@[simp]
theorem current_comment (text : List Char) (draft : Draft) :
    (draft.comment text).current = [] := rfl

/-- A comment ends the line before it and adds its own lines, indented. -/
theorem lines_comment (text : List Char) (draft : Draft) :
    (draft.comment text).lines =
      draft.breakLine.lines ++ (commentLines text).map (draft.indentation ++ ·) := by
  simp [comment, lines, breakLine, indentation]

/-- The text of a draft: blank lines at the end are left out. -/
def text (draft : Draft) : List Char :=
  let kept := draft.breakLine.linesReversed.dropWhile List.isEmpty
  List.intercalate ['\n'] kept.reverse

end Draft

end ModelScribe

import ModelScribe.Proofs.Text.Ink

/-! # The lines of a text

Cutting a text into lines forgets its line breaks, which may be a line feed or a
carriage return with a line feed, and an empty last line. Up to blanks at the
ends of the lines these are the pieces between the line feeds
(`ModelScribe.Text.map_trimEnd_splitOn`).
-/

namespace ModelScribe.Text

theorem append_eq_append_cons {first second start tail : List Char} {character : Char}
    (cut : first ++ second = start ++ character :: tail) :
    (∃ right, first = start ++ character :: right ∧ tail = right ++ second) ∨
      ∃ left, start = first ++ left ∧ second = left ++ character :: tail := by
  rcases List.append_eq_append_iff.mp cut with ⟨left, front, back⟩ | ⟨right, front, back⟩
  · exact .inr ⟨left, front, back⟩
  · cases right with
    | nil => exact .inr ⟨[], by rw [front]; simp, back.symm⟩
    | cons other right =>
        rw [List.cons_append, List.cons.injEq] at back
        obtain ⟨rfl, rfl⟩ := back
        exact .inl ⟨right, front, rfl⟩

/-- Behind a text that goes on so a line ends. -/
def EndsLine (rest : List Char) : Prop :=
  ∀ next ∈ rest.head?, next = '\n'

/-- The empty piece behind a final line feed, which is no line. -/
def unfinished (text : List Char) : List (List Char) :=
  if text.getLast?.all (· = '\n') then [[]] else []

theorem unfinished_cons (character : Char) {rest : List Char} (more : rest ≠ []) :
    unfinished (character :: rest) = unfinished rest := by
  obtain ⟨next, rest, rfl⟩ := List.exists_cons_of_ne_nil more
  simp only [unfinished, List.getLast?_cons_cons]

theorem unfinished_of_endsInked {text : List Char} (ends : EndsInked text) :
    unfinished text = [] := by
  obtain ⟨before, character, rfl, inked⟩ := ends
  have noFeed : character ≠ '\n' := fun same => by simp [same, isBlank] at inked
  simp [unfinished, noFeed]

/-- The pieces between the line feeds are the lines up to blanks at their ends, and one more behind
a final line feed. -/
theorem map_trimEnd_splitOn (text : List Char) :
    (text.splitOn '\n').map trimEnd = (lines text).map trimEnd ++ unfinished text := by
  fun_induction lines text with
  | case1 => rfl
  | case2 rest ih =>
      have ends : unfinished ('\r' :: '\n' :: rest) = unfinished rest := by
        cases rest with
        | nil => rfl
        | cons next rest => simp [unfinished_cons]
      have blank : trimEnd ['\r'] = trimEnd [] := rfl
      simp [List.splitOn_cons_eq_if_modifyHead, ih, ends, blank]
  | case3 rest ih =>
      have ends : unfinished ('\n' :: rest) = unfinished rest := by
        cases rest with
        | nil => rfl
        | cons next rest => simp [unfinished_cons]
      simp [List.splitOn_cons_eq_if_modifyHead, ih, ends]
  | case4 character rest noReturn noFeed last ih =>
      obtain rfl := lines_eq_nil last
      have inside : character ≠ '\n' := noFeed
      simp [List.splitOn_cons_eq_if_modifyHead, inside, unfinished]
  | case5 character rest noReturn noFeed line more cut ih =>
      have nonempty : rest ≠ [] := by
        rintro rfl
        simp [lines] at cut
      obtain ⟨piece, pieces, split⟩ := List.exists_cons_of_ne_nil (List.splitOn_ne_nil '\n' rest)
      have inside : character ≠ '\n' := noFeed
      rw [split, cut, List.map_cons, List.map_cons, List.cons_append, List.cons.injEq] at ih
      rw [List.splitOn_cons_eq_if_modifyHead, split, unfinished_cons _ nonempty]
      simp [inside, ih.2, trimEnd_cons _ piece, trimEnd_cons _ line, ih.1]

theorem lines_cons {character : Char} (noFeed : character ≠ '\n') (noReturn : character ≠ '\r')
    (rest : List Char) :
    lines (character :: rest) = (character :: (lines rest).headD []) :: (lines rest).tail := by
  rw [lines.eq_4 character rest (fun _ same => absurd same noReturn) noFeed]
  cases lines rest <;> rfl

/-- A line without line breaks is cut off at the line feed behind it. -/
theorem lines_append_lineFeed {line : List Char} (whole : '\n' ∉ line ∧ '\r' ∉ line)
    (rest : List Char) : lines (line ++ '\n' :: rest) = line :: lines rest := by
  induction line with
  | nil => rw [List.nil_append, lines.eq_3]
  | cons character line ih =>
      simp only [List.mem_cons, not_or] at whole
      obtain ⟨⟨feed, noFeed⟩, ⟨carriage, noReturn⟩⟩ := whole
      rw [List.cons_append, lines_cons (Ne.symm feed) (Ne.symm carriage), ih ⟨noFeed, noReturn⟩]
      rfl

/-- A text without line breaks is one line. -/
theorem lines_of_whole {line : List Char} (whole : '\n' ∉ line ∧ '\r' ∉ line)
    (nonempty : line ≠ []) : lines line = [line] := by
  induction line with
  | nil => exact absurd rfl nonempty
  | cons character line ih =>
      simp only [List.mem_cons, not_or] at whole
      obtain ⟨⟨feed, noFeed⟩, ⟨carriage, noReturn⟩⟩ := whole
      rw [lines_cons (Ne.symm feed) (Ne.symm carriage)]
      cases line with
      | nil => rfl
      | cons next line => rw [ih ⟨noFeed, noReturn⟩ (List.cons_ne_nil _ _)]; rfl

/-- Lines joined by line feeds are found again, if the last one is not empty. -/
theorem lines_intercalate {before : List (List Char)} {last : List Char}
    (whole : ∀ line ∈ before ++ [last], '\n' ∉ line ∧ '\r' ∉ line) (nonempty : last ≠ []) :
    lines (List.intercalate ['\n'] (before ++ [last])) = before ++ [last] := by
  induction before with
  | nil =>
      rw [List.nil_append, List.intercalate_singleton]
      exact lines_of_whole (whole last (List.mem_cons_self ..)) nonempty
  | cons line before ih =>
      have more : before ++ [last] ≠ [] := List.append_ne_nil_of_right_ne_nil _ (List.cons_ne_nil _ _)
      rw [List.cons_append, List.intercalate_cons_of_ne_nil more, List.append_assoc,
        List.singleton_append, lines_append_lineFeed (whole line (List.mem_cons_self ..)),
        ih fun line member => whole line (List.mem_cons_of_mem _ member)]

/-- Lines joined by line feeds and blanks have the ink of the lines. -/
theorem ink_intercalate {indentation : List Char}
    (indents : ∀ character ∈ indentation, isBlank character = true) (lines : List (List Char)) :
    ink (List.intercalate ('\n' :: indentation) lines) = lines.flatMap ink := by
  induction lines with
  | nil => rfl
  | cons line lines ih =>
      cases lines with
      | nil => simp
      | cons next more =>
          rw [List.intercalate_cons_cons, ink_append, ih, ink_append, ink_cons_lineFeed,
            ink_of_blank indents, List.append_nil]
          rfl

/-- Joined texts begin with ink if the first one does. -/
theorem BeginsInked.intercalate {first : List Char} (begins : BeginsInked first)
    (separator : List Char) (others : List (List Char)) :
    BeginsInked (List.intercalate separator (first :: others)) := by
  cases others with
  | nil => rwa [List.intercalate_singleton]
  | cons next others =>
      rw [List.intercalate_cons_cons, List.append_assoc]
      exact begins.append _

/-- Joined texts end with ink if all of them do. -/
theorem endsInked_intercalate (separator : List Char) {first : List Char}
    {others : List (List Char)} (ends : ∀ text ∈ first :: others, EndsInked text) :
    EndsInked (List.intercalate separator (first :: others)) := by
  induction others generalizing first with
  | nil =>
      rw [List.intercalate_singleton]
      exact ends first (List.mem_cons_self ..)
  | cons next others ih =>
      rw [List.intercalate_cons_cons]
      exact (ih fun text member => ends text (List.mem_cons_of_mem _ member)).append _

/-- Blanks within a line. -/
def IsIndentation (text : List Char) : Prop :=
  ∀ character ∈ text, isBlank character = true ∧ character ≠ '\n'

theorem IsIndentation.blank {text : List Char} (indents : IsIndentation text) :
    ∀ character ∈ text, isBlank character = true :=
  fun character member => (indents character member).1

theorem isIndentation_nil : IsIndentation [] :=
  List.forall_mem_nil _

/-- Lines joined by line feeds and indentation are found again between the line feeds. -/
theorem map_trim_splitOn_intercalate {indentation pad : List Char}
    (indents : IsIndentation indentation) (pads : IsIndentation pad) {line : List Char}
    {lines : List (List Char)} (whole : ∀ line' ∈ line :: lines, '\n' ∉ line') :
    ((pad ++ List.intercalate ('\n' :: indentation) (line :: lines)).splitOn '\n').map trim =
      (line :: lines).map trim := by
  have padded : ∀ {pad}, IsIndentation pad → ∀ line, trim (pad ++ line) = trim line := by
    intro pad pads line
    have framed := trim_append_append_of_blank line (fun _ member => (pads _ member).1)
      (List.forall_mem_nil _)
    rwa [List.append_nil] at framed
  induction lines generalizing line pad with
  | nil =>
      have inside : '\n' ∉ pad ++ line := by
        rw [List.mem_append, not_or]
        exact ⟨fun member => (pads _ member).2 rfl, whole line (List.mem_cons_self ..)⟩
      rw [List.intercalate_singleton, List.splitOn_eq_singleton inside]
      simp [padded pads]
  | cons next more ih =>
      have inside : '\n' ∉ pad ++ line := by
        rw [List.mem_append, not_or]
        exact ⟨fun member => (pads _ member).2 rfl, whole line (List.mem_cons_self ..)⟩
      rw [List.intercalate_cons_cons, List.append_assoc, List.cons_append, ← List.append_assoc,
        List.splitOn_append_cons_self_of_not_mem inside, List.map_cons, padded pads,
        ih indents fun line' member => whole line' (List.mem_cons_of_mem _ member)]
      rfl

end ModelScribe.Text

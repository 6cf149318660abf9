import ModelScribe.Proofs.Layout.Recutting

/-! # Laying out a layout

A layout that is laid out again, at the same or at another indentation, is the
layout of its source (`ModelScribe.Layout.format_format`). Blank lines at the end
of an open comment are the one thing that an indentation alone makes visible, so
the first indentation may be empty only if the second one is.

A layout is cut into the pieces that were laid out, and these are followed side by
side with the pieces of the source. Right behind a piece both are at one spot, and
the gap that was laid out before the next piece leads where the blanks of the
source led (`ModelScribe.Spot.Reached.approach_across`).
-/

namespace ModelScribe

open Text

namespace Spot

/-- A closing brace is approached at the start of a line, one level less deep. -/
theorem approach_closeBrace (spot : Spot) :
    spot.approach .closeBrace = ⟨spot.breakLine.depth - 1, spot.breakLine.place⟩ := by
  rw [depth_breakLine]
  rfl

/-- The spot behind a gap that is read as blanks of a source. -/
def across (gap : List Char) (spot : Spot) : Spot :=
  if gap = [] then spot else spot.pause (gap.count '\n')

/-- Blanks do not change the depth. -/
theorem depth_across (gap : List Char) (spot : Spot) : (spot.across gap).depth = spot.depth := by
  unfold across
  split
  · rfl
  · exact depth_pause spot _

variable {unit : List Char}

/-- The gap at the start of a text is read back as nothing. -/
theorem across_gap_textStart (unit : List Char) (spot : Spot) :
    spot.across (gap unit ⟨0, .textStart⟩) = spot := rfl

/-- The gap at the start of a line is read back as its line feeds. -/
theorem across_gap_lineStart (indents : IsIndentation unit) (spot : Spot) (depth : Nat)
    (blankLine : Bool) :
    spot.across (gap unit ⟨depth, .lineStart blankLine⟩) =
      spot.pause (if blankLine then 2 else 1) := by
  have level : (indentation unit ⟨depth, .lineStart blankLine⟩).count '\n' = 0 := by
    rw [List.count_eq_zero]
    intro member
    have indented : IsIndentation (indentation unit ⟨depth, .lineStart blankLine⟩) :=
      forall_mem_indentation indents _
    exact (indented _ member).2 rfl
  cases blankLine with
  | false => simp [across, gap, level]
  | true => simp [across, gap, level]

/-- The gap inside of a line is read back as the space that it is. -/
theorem across_gap_inLine (unit : List Char) (spot : Spot) (depth : Nat) (spaceDue : Bool) :
    spot.across (gap unit ⟨depth, .inLine spaceDue⟩) =
      if spaceDue then spot.pause 0 else spot := by
  cases spaceDue <;> rfl

/-- Where blanks lead from a spot right behind a piece. -/
inductive Reached : Spot → Spot → Prop
  | textStart : Reached .start .start
  | lineStart (depth : Nat) : Reached ⟨depth, .lineStart false⟩ ⟨depth, .lineStart false⟩
  | blankLine : Reached ⟨0, .lineStart false⟩ ⟨0, .lineStart true⟩
  | inLine (depth : Nat) (spaceDue : Bool) :
      Reached ⟨depth, .inLine false⟩ ⟨depth, .inLine spaceDue⟩
  | broken (blankLine : Bool) : Reached ⟨0, .inLine false⟩ ⟨0, .lineStart blankLine⟩

/-- The spot behind a piece that is no gap is reached by laying it out. -/
theorem reached_after (spot : Spot) {piece : Piece} (notBlank : ∀ gap, piece ≠ .blanks gap) :
    Reached (spot.after piece) (spot.after piece) := by
  cases piece with
  | blanks text => exact absurd rfl (notBlank text)
  | comma =>
      simp only [after]
      split
      · exact .lineStart _
      · exact .inLine _ false
  | openBrace => exact .lineStart _
  | semicolon => exact .lineStart _
  | lineComment text => exact .lineStart _
  | blockComment text => exact .lineStart _
  | _ => exact .inLine _ false

namespace Reached

variable {behind spot : Spot}

theorem depth_eq (reached : Reached behind spot) : behind.depth = spot.depth := by
  cases reached <;> rfl

/-- Blanks keep a spot reached. -/
theorem pause (reached : Reached behind spot) (lineFeeds : Nat) :
    Reached behind (spot.pause lineFeeds) := by
  cases reached with
  | textStart =>
      rw [start, pause_textStart]
      exact .textStart
  | lineStart depth =>
      rw [pause_lineStart, Bool.false_or]
      cases blank : depth == 0 && decide (2 ≤ lineFeeds) with
      | false => exact .lineStart depth
      | true =>
          rw [Bool.and_eq_true, beq_iff_eq] at blank
          rw [blank.1]
          exact .blankLine
  | blankLine =>
      rw [pause_lineStart]
      exact .blankLine
  | inLine depth spaceDue =>
      rw [pause_inLine]
      split
      · exact .inLine depth true
      · next outside =>
          obtain rfl : depth = 0 := by omega
          exact .broken _
  | broken blankLine =>
      rw [pause_lineStart]
      exact .broken _

/-- A gap leads to the spot it was laid out at. -/
theorem across_gap (indents : IsIndentation unit) (reached : Reached behind spot) :
    behind.across (spot.gap unit) = spot := by
  cases reached with
  | textStart => exact across_gap_textStart unit start
  | lineStart depth => simp [across_gap_lineStart indents, pause_lineStart]
  | blankLine => simp [across_gap_lineStart indents, pause_lineStart]
  | inLine depth spaceDue => cases spaceDue <;> simp [across_gap_inLine, pause_inLine]
  | broken blankLine => cases blankLine <;> simp [across_gap_lineStart indents, pause_inLine]

/-- Where the space due has been dropped, the gap is read back to the same spot. -/
theorem across_gap_hug (indents : IsIndentation unit) (reached : Reached behind spot) :
    (behind.across (spot.hug.gap unit)).hug = spot.hug := by
  have same := reached.across_gap indents
  cases reached with
  | inLine depth spaceDue => rfl
  | _ => exact congrArg hug same

/-- The gap of a line that is begun anew may be indented less than the line before it. -/
theorem across_gap_breakLine (indents : IsIndentation unit) (reached : Reached behind spot)
    {depth : Nat} (shallow : depth ≤ spot.depth) :
    (behind.across (gap unit ⟨depth, spot.breakLine.place⟩)).breakLine = spot.breakLine := by
  cases reached with
  | textStart =>
      obtain rfl := Nat.le_zero.mp shallow
      rfl
  | lineStart level => simp [breakLine, across_gap_lineStart indents, pause_lineStart]
  | blankLine => simp [breakLine, across_gap_lineStart indents, pause_lineStart]
  | inLine level spaceDue =>
      by_cases deep : 0 < level
      · simp [breakLine, across_gap_lineStart indents, pause_inLine, deep]
      · simp [breakLine, across_gap_lineStart indents, pause_inLine, deep]
  | broken blankLine =>
      cases blankLine <;> simp [breakLine, across_gap_lineStart indents, pause_inLine]

/-- **Gaps as blanks.** Behind the gap laid out for it a piece is approached as it is in the
source. -/
theorem approach_across (indents : IsIndentation unit) (reached : Reached behind spot)
    (piece : Piece) :
    (behind.across ((spot.approach piece).gap unit)).approach piece = spot.approach piece := by
  cases piece with
  | comma => exact reached.across_gap_hug indents
  | semicolon => exact reached.across_gap_hug indents
  | closer character => exact reached.across_gap_hug indents
  | blockComment text =>
      apply reached.across_gap_breakLine indents
      exact Nat.le_of_eq (depth_breakLine spot)
  | closeBrace =>
      have same : (behind.across ((spot.approach .closeBrace).gap unit)).breakLine =
          spot.breakLine := reached.across_gap_breakLine indents (Nat.sub_le spot.depth 1)
      rw [approach_closeBrace (behind.across _), same]
      exact (approach_closeBrace spot).symm
  | _ => exact reached.across_gap indents

end Reached

end Spot

/-- A line with something on it is not left unfinished. -/
theorem Text.unfinished_append {text : List Char} (nonempty : text ≠ []) (inLine : '\n' ∉ text)
    (before : List Char) : unfinished (before ++ text) = [] := by
  obtain ⟨start, last, rfl⟩ := (List.eq_nil_or_concat' text).resolve_left nonempty
  have noFeed : last ≠ '\n' := by
    rintro rfl
    apply inLine
    exact List.mem_append_right _ (List.mem_singleton_self _)
  rw [unfinished, ← List.append_assoc, List.getLast?_concat]
  simp [noFeed]

namespace Draft

/-- Lines of a comment that have been set, in part or all, are not moved by setting them again. -/
theorem settledLines_of_settled {lines kept : List (List Char)}
    (shorter : kept <+: settledLines lines) : settledLines kept = kept := by
  obtain ⟨dropped, whole⟩ := shorter
  cases kept with
  | nil => rfl
  | cons line kept =>
      cases lines with
      | nil => exact absurd whole (List.cons_ne_nil _ _)
      | cons first others =>
          rw [settledLines, List.cons_append, List.cons.injEq] at whole
          -- the first line is trimmed only; the others have their stars aligned already
          have fixed : kept.map commentLine = kept := by
            conv_rhs => rw [← List.map_id kept]
            apply List.map_congr_left
            intro other member
            have among : other ∈ others.map commentLine := by
              rw [← whole.2]
              exact List.mem_append_left _ member
            obtain ⟨source, _, rfl⟩ := List.mem_map.mp among
            exact commentLine_congr (trim_commentLine source)
          rw [settledLines, whole.1, trim_trim, fixed]

/-- A laid-out comment does not end with a line feed, for its last line is not empty unless it is
indented. -/
theorem unfinished_settledComment {indentation comment : List Char}
    (indents : IsIndentation indentation) (written : settledComment indentation comment ≠ []) :
    unfinished (settledComment indentation comment) = [] := by
  have visible := List.rdropWhile_last_not
    (fun line : List Char => indentation.isEmpty && line.isEmpty) (commentLines comment)
  have whole : ∀ line ∈ (commentLines comment).rdropWhile
      (fun line => indentation.isEmpty && line.isEmpty), '\n' ∉ line := by
    intro line member
    apply lineFeed_not_mem_of_mem_commentLines
    exact List.IsPrefix.mem member (List.rdropWhile_prefix _ _)
  unfold settledComment at written ⊢
  generalize (commentLines comment).rdropWhile
    (fun line => indentation.isEmpty && line.isEmpty) = kept at *
  cases kept with
  | nil => exact absurd rfl written
  | cons line more =>
      rcases List.eq_nil_or_concat' more with rfl | ⟨front, last, rfl⟩
      · rw [List.intercalate_singleton] at written ⊢
        exact unfinished_append written (whole line (List.mem_cons_self ..)) []
      · have nonempty : indentation ++ last ≠ [] := by
          have ends := visible (List.cons_ne_nil _ _)
          simpa using ends
        have inLine : '\n' ∉ indentation ++ last := by
          rw [List.mem_append, not_or]
          refine ⟨fun feed => (indents _ feed).2 rfl, whole last ?_⟩
          simp
        rw [intercalate_lineFeed_cons, List.map_append, List.flatMap_append, List.map_singleton,
          List.flatMap_singleton, ← List.append_assoc, List.append_cons]
        exact unfinished_append nonempty inLine _

/-- The lines of a laid-out comment are those that it was laid out in. -/
theorem commentLines_settledComment {indentation comment : List Char}
    (indents : IsIndentation indentation) (written : settledComment indentation comment ≠ []) :
    commentLines (settledComment indentation comment) =
      (commentLines comment).rdropWhile fun line => indentation.isEmpty && line.isEmpty := by
  have shorter := List.rdropWhile_prefix
    (fun line : List Char => indentation.isEmpty && line.isEmpty) (l := commentLines comment)
  have cut := commentLines_append_unfinished (settledComment indentation comment)
  rw [unfinished_settledComment indents written, List.append_nil] at cut
  rw [cut]
  unfold settledComment at written ⊢
  cases kept : (commentLines comment).rdropWhile
      (fun line => indentation.isEmpty && line.isEmpty) with
  | nil => exact absurd (by rw [kept]; rfl) written
  | cons line more =>
      rw [kept] at shorter
      have inLine : ∀ other ∈ line :: more, '\n' ∉ other := by
        intro other member
        exact lineFeed_not_mem_of_mem_commentLines (shorter.mem member)
      have spelled := map_trim_splitOn_intercalate indents isIndentation_nil inLine
      rw [commentLines_eq_settledLines] at shorter
      exact (settledLines_congr spelled).trans (settledLines_of_settled shorter)

/-- **Comments laid out again.** A laid-out comment is laid out again as its source is, unless blank
lines at its end were left out at the first indentation that would show at the second. -/
theorem settledComment_settledComment {first second comment : List Char}
    (indents : IsIndentation first) (visible : first = [] → second = [])
    (written : settledComment first comment ≠ []) :
    settledComment second (settledComment first comment) = settledComment second comment := by
  have lines := commentLines_settledComment indents written
  rw [settledComment, lines, settledComment]
  by_cases bare : first = []
  · rw [bare, visible bare, List.rdropWhile_idempotent]
  · have whole : (commentLines comment).rdropWhile
        (fun line => first.isEmpty && line.isEmpty) = commentLines comment := by
      rw [List.rdropWhile_eq_self_iff]
      intro _ empty
      simp [bare] at empty
    rw [whole]

end Draft

namespace Piece

/-- A piece that is laid out again is as it would be, had it been laid out so at once. -/
theorem settled_settled {piece : Piece} {rest first second : List Char}
    (stands : piece.Stands rest) (indents : IsIndentation first)
    (visible : first = [] → second = []) :
    (piece.settled first).settled second = piece.settled second := by
  cases piece with
  | literal text => simp only [settled, trimEnd_trimEnd]
  | lineComment text => simp only [settled, trimEnd_trimEnd]
  | blockComment text =>
      obtain ⟨inside, closed, rfl, belongs, _⟩ := stands
      obtain ⟨set, shape, _⟩ := Draft.commentInside_settledComment indents.blank belongs
      have written : Draft.settledComment first ('/' :: '*' :: inside) ≠ [] := by
        rw [shape]
        exact List.cons_ne_nil _ _
      simp only [settled, Draft.settledComment_settledComment indents visible written]
  | _ => rfl

end Piece

namespace Spot

theorem approach_settled (spot : Spot) (piece : Piece) (indentation : List Char) :
    spot.approach (piece.settled indentation) = spot.approach piece := by
  cases piece <;> rfl

/-- The spot behind a piece depends on the number of open braces only. -/
theorem after_settled {spot other : Spot} {piece : Piece} (notBlank : ∀ gap, piece ≠ .blanks gap)
    (same : other.depth = spot.depth) (indentation : List Char) :
    other.after (piece.settled indentation) = spot.after piece := by
  cases piece with
  | blanks text => exact absurd rfl (notBlank text)
  | _ => simp only [Piece.settled, after, same]

/-- Two units of indentation show, or do not show, at the same spots. -/
theorem indentation_eq_nil {first second : List Char} (visible : first = [] → second = [])
    {spot : Spot} (empty : spot.indentation first = []) : spot.indentation second = [] := by
  simp only [indentation, List.flatten_eq_nil_iff, List.mem_replicate] at empty ⊢
  rintro level ⟨deep, rfl⟩
  exact visible (empty first ⟨deep, rfl⟩)

end Spot

namespace Layout

/-- Behind a gap, pieces are laid out from the spot across it. -/
theorem lay_ofGap_append (unit : List Char) (spot : Spot) (gap : List Char)
    (pieces : List Piece) :
    lay unit spot (Piece.ofGap gap ++ pieces) = lay unit (spot.across gap) pieces := by
  unfold Piece.ofGap Spot.across
  split <;> rfl

/-- **Pieces laid out again.** What has been laid out is laid out again, from the spot right behind
the piece before it, as the pieces of the source are from where the blanks there lead. -/
theorem lay_lay {first second : List Char} {pieces : List Piece} (indents : IsIndentation first)
    (visible : first = [] → second = []) {behind spot : Spot} (reached : behind.Reached spot)
    (stand : Piece.AllStand pieces) :
    lay second behind (lay first spot pieces) = lay second spot pieces := by
  -- blanks move the spot of the source only; any other piece brings both to one spot again
  induction pieces generalizing behind spot with
  | nil => rfl
  | cons piece pieces ih =>
      by_cases gap : ∃ text, piece = .blanks text
      · obtain ⟨text, rfl⟩ := gap
        exact ih (reached.pause _) stand.2
      · have notBlank : ∀ text, piece ≠ .blanks text := fun text same => gap ⟨text, same⟩
        have still := Piece.settled_ne_blanks notBlank ((spot.approach piece).indentation first)
        have onward := ih (Spot.reached_after spot notBlank) stand.2
        have approach := reached.approach_across indents piece
        have depth : (behind.across ((spot.approach piece).gap first)).depth = spot.depth :=
          (Spot.depth_across _ behind).trans reached.depth_eq
        have level : IsIndentation ((spot.approach piece).indentation first) :=
          Spot.forall_mem_indentation indents _
        have bare : (spot.approach piece).indentation first = [] →
            (spot.approach piece).indentation second = [] := Spot.indentation_eq_nil visible
        have again := Piece.settled_settled stand.1 level bare
        rw [lay, layPiece_of_notBlank _ _ notBlank, List.append_assoc, lay_ofGap_append,
          List.singleton_append, lay, layPiece_of_notBlank _ _ still, Spot.approach_settled,
          approach, again, Spot.after_settled notBlank depth, onward, lay,
          layPiece_of_notBlank _ _ notBlank]

/-- **Laying out a layout.** The layout of a layout is the layout of its source: laying out twice is
laying out once, and a text can be indented anew. -/
theorem format_format (first second : LayoutOptions) (source : String)
    (visible : first.indentUnit ≠ [] ∨ first.indentUnit = second.indentUnit) :
    format second (format first source) = format second source := by
  have bare : first.indentUnit = [] → second.indentUnit = [] := by
    intro empty
    rwa [← visible.resolve_left (not_not.mpr empty)]
  have again := lay_lay first.isIndentation_indentUnit bare .textStart
    (Piece.allStand_split source.toList)
  have recut := text_draft second (format first source).toList
  rw [split_format, again, ← text_draft] at recut
  exact congrArg String.ofList recut

/-- An open comment in open braces, first indented by tabs. -/
theorem format_format_openComment :
    (⟨true, 4⟩ : LayoutOptions).indentUnit ≠ [] ∧
      format ⟨false, 2⟩ (format ⟨true, 4⟩ "a \x7bb /* c\n* d\n\n ") =
        "a \x7b\n  b\n  /* c\n   * d\n  \n  " := by
  have visible : (⟨true, 4⟩ : LayoutOptions).indentUnit ≠ [] := by decide
  refine ⟨visible, (format_format _ _ _ (.inl visible)).trans ?_⟩
  decide +kernel

/-- Without an indentation the blank lines at the end of an open comment are lost for good. -/
example :
    format ⟨false, 2⟩ (format ⟨false, 0⟩ "\x7b/* a\n\n ") ≠
      format ⟨false, 2⟩ "\x7b/* a\n\n " := by
  decide +kernel

end Layout

end ModelScribe

import ModelScribe.Proofs.Layout.Context
import ModelScribe.Proofs.Layout.Recutting

/-! # The stretches of a layout

A layout is made of stretches, one for each piece of the source but its blanks: a
gap, and the piece as it is settled (`ModelScribe.Layout.Stretch`). Every character
of a layout is found in one of them (`ModelScribe.Layout.exists_stretch`).

What has been laid out before a stretch ends with ink, or is nothing at all, and a
blank line comes outside braces only (`ModelScribe.Spot.Continues`). The reader of
`ModelScribe.Context` counts as many open braces before a stretch as the spot does
that it was laid out at (`ModelScribe.Layout.Stretch.context_gap`).
-/

namespace ModelScribe

open Text

namespace Piece

/-- The piece ends with ink at every indentation. -/
def SettlesInked (piece : Piece) : Prop :=
  ∀ indentation, IsIndentation indentation → EndsInked (piece.settled indentation).text

variable {piece : Piece} {rest : List Char}

/-- Strings and line comments are trimmed at their ends, and of the other pieces only a block
comment could end with a blank. -/
theorem Stands.settlesInked_of_noComment (stands : piece.Stands rest)
    (notBlank : ∀ gap, piece ≠ blanks gap) (noComment : ∀ text, piece ≠ blockComment text) :
    piece.SettlesInked := by
  intro indentation _
  have begins := beginsInked_of_stands stands notBlank
  cases piece with
  | literal text => exact begins.endsInked_trimEnd
  | lineComment text => exact begins.endsInked_trimEnd
  | blockComment text => exact absurd rfl (noComment text)
  | blanks text => exact absurd rfl (notBlank text)
  | emptyBraces gap => exact ⟨['{'], '}', rfl, by decide⟩
  | _ => exact begins.endsInked

/-- A piece that something follows ends with ink. -/
theorem Stands.settlesInked (stands : piece.Stands rest) (notBlank : ∀ gap, piece ≠ blanks gap)
    (onward : rest ≠ []) : piece.SettlesInked := by
  by_cases comment : ∃ text, piece = blockComment text
  · obtain ⟨text, rfl⟩ := comment
    obtain ⟨inside, closed, rfl, belongs, last⟩ := stands
    obtain rfl : closed = true := by
      rw [← Bool.not_eq_false]
      exact fun opens => onward (last opens)
    intro indentation indents
    obtain ⟨settled, shape, set⟩ := Draft.commentInside_settledComment indents.blank belongs
    simp only [Piece.settled, Piece.text, shape]
    exact set.endsInked.append ['/', '*']
  · exact stands.settlesInked_of_noComment notBlank fun text same => comment ⟨text, same⟩

/-- The later of pieces that stand in a text stand there. -/
theorem AllStand.of_append {first second : List Piece} (stand : AllStand (first ++ second)) :
    AllStand second := by
  induction first with
  | nil => exact stand
  | cons piece first ih => exact ih stand.2

/-- Pieces with more text behind them end in something to see once they are laid out. -/
theorem AllStand.settlesInked {done rest : List Piece} (stand : AllStand (done ++ rest))
    (onward : rest.flatMap text ≠ []) :
    ∀ piece ∈ done, (∀ gap, piece ≠ blanks gap) → piece.SettlesInked := by
  induction done with
  | nil => exact List.forall_mem_nil _
  | cons piece done ih =>
      intro other member notBlank
      rcases List.mem_cons.mp member with rfl | member
      · have more : (done ++ rest).flatMap text ≠ [] := by
          rw [List.flatMap_append]
          exact List.append_ne_nil_of_right_ne_nil _ onward
        exact stand.1.settlesInked notBlank more
      · exact ih stand.2 other member notBlank

end Piece

namespace Spot

/-- The spot is reached behind such a text. -/
inductive Continues : List Char → Spot → Prop
  | textStart : Continues [] start
  | lineStart {laid : List Char} (inked : EndsInked laid) (depth : Nat) :
      Continues laid ⟨depth, .lineStart false⟩
  | blankLine {laid : List Char} (inked : EndsInked laid) : Continues laid ⟨0, .lineStart true⟩
  | inLine {laid : List Char} (inked : EndsInked laid) (depth : Nat) (spaceDue : Bool) :
      Continues laid ⟨depth, .inLine spaceDue⟩

variable {laid unit : List Char} {spot : Spot}

namespace Continues

/-- Blanks keep a spot one that continues a text. -/
theorem pause (continues : Continues laid spot) (lineFeeds : Nat) :
    Continues laid (spot.pause lineFeeds) := by
  cases continues with
  | textStart =>
      rw [start, pause_textStart]
      exact .textStart
  | lineStart inked depth =>
      rw [pause_lineStart, Bool.false_or]
      cases blank : depth == 0 && decide (2 ≤ lineFeeds) with
      | false => exact .lineStart inked depth
      | true =>
          rw [Bool.and_eq_true, beq_iff_eq] at blank
          rw [blank.1]
          exact .blankLine inked
  | blankLine inked =>
      rw [pause_lineStart]
      exact .blankLine inked
  | inLine inked depth spaceDue =>
      rw [pause_inLine]
      split
      · exact .inLine inked depth true
      · next outside =>
          obtain rfl : depth = 0 := by omega
          cases decide (2 ≤ lineFeeds) with
          | false => exact .lineStart inked 0
          | true => exact .blankLine inked

/-- Going up to a piece keeps a spot one that continues a text. -/
theorem approach (continues : Continues laid spot) (piece : Piece) :
    Continues laid (spot.approach piece) := by
  cases continues with
  | textStart => cases piece <;> exact .textStart
  | lineStart inked depth => cases piece <;> exact .lineStart inked _
  | blankLine inked => cases piece <;> exact .blankLine inked
  | inLine inked depth spaceDue =>
      cases piece with
      | blockComment text => exact .lineStart inked depth
      | closeBrace => exact .lineStart inked (depth - 1)
      | _ => exact .inLine inked depth _

/-- The spot behind a piece that is no gap continues a text that ends in something to see. -/
theorem of_after (inked : EndsInked laid) (spot : Spot) {piece : Piece}
    (notBlank : ∀ gap, piece ≠ .blanks gap) : Continues laid (spot.after piece) := by
  cases piece with
  | blanks text => exact absurd rfl (notBlank text)
  | openBrace => exact .lineStart inked _
  | semicolon => exact .lineStart inked _
  | lineComment text => exact .lineStart inked _
  | blockComment text => exact .lineStart inked _
  | comma =>
      simp only [after]
      split
      · exact .lineStart inked _
      · exact .inLine inked _ false
  | _ => exact .inLine inked _ false

end Continues

/-- There is no gap at the start of a text. -/
theorem Continues.gap_eq_nil (continues : Continues [] spot) : spot.gap unit = [] := by
  cases continues with
  | textStart => rfl
  | _ inked => exact absurd rfl inked.ne_nil

/-- What is laid before a gap ends in something to see. -/
theorem Continues.endsInked_of_gap (continues : Continues laid spot) (gapped : spot.gap unit ≠ []) :
    EndsInked laid := by
  cases continues with
  | textStart => exact absurd rfl gapped
  | _ inked => exact inked

/-- What is laid before a spot ends in something to see, if it is anything. -/
theorem Continues.endsInked (continues : Continues laid spot) (begun : laid ≠ []) :
    EndsInked laid := by
  cases continues with
  | textStart => exact absurd rfl begun
  | _ inked => exact inked

/-- The spot behind pieces. -/
def behind (spot : Spot) (pieces : List Piece) : Spot :=
  pieces.foldl after spot

/-- Each piece changes the depth by the braces that it is. -/
theorem depth_after (spot : Spot) (piece : Piece) :
    (spot.after piece).depth = piece.deepen spot.depth := by
  cases piece with
  | blanks text => exact depth_pause spot _
  | _ => rfl

/-- The depth behind pieces is counted piece by piece. -/
theorem depth_behind (spot : Spot) (pieces : List Piece) :
    (spot.behind pieces).depth =
      pieces.foldl (fun depth piece => piece.deepen depth) spot.depth := by
  induction pieces generalizing spot with
  | nil => rfl
  | cons piece pieces ih =>
      rw [List.foldl_cons, ← depth_after]
      exact ih (spot.after piece)

/-- **Continuation.** Behind what is laid out for pieces that end with ink the next spot is
reached. -/
theorem Continues.behind (indents : IsIndentation unit) (continues : Continues laid spot)
    {pieces : List Piece}
    (ends : ∀ piece ∈ pieces, (∀ gap, piece ≠ .blanks gap) → piece.SettlesInked) :
    Continues (laid ++ (Layout.lay unit spot pieces).flatMap Piece.text) (spot.behind pieces) := by
  induction pieces generalizing laid spot with
  | nil =>
      rw [Layout.lay, List.flatMap_nil, List.append_nil]
      exact continues
  | cons piece pieces ih =>
      have later := fun other member => ends other (List.mem_cons_of_mem piece member)
      rw [Layout.lay, List.flatMap_append, ← List.append_assoc]
      refine ih ?_ later
      by_cases gap : ∃ text, piece = .blanks text
      · obtain ⟨text, rfl⟩ := gap
        rw [Layout.layPiece, List.flatMap_nil, List.append_nil]
        exact continues.pause _
      · have notBlank : ∀ text, piece ≠ .blanks text := fun text same => gap ⟨text, same⟩
        have level : IsIndentation ((spot.approach piece).indentation unit) :=
          forall_mem_indentation indents _
        have inked := ends piece (List.mem_cons_self ..) notBlank _ level
        refine of_after ?_ spot notBlank
        rw [Layout.flatMap_text_layPiece _ _ notBlank]
        exact (inked.append _).append laid

end Spot

namespace Layout

variable {unit : List Char} {pieces : List Piece}

/-- Pieces are laid out in their order, the later ones from the spot behind the earlier. -/
theorem lay_append (unit : List Char) (spot : Spot) (first second : List Piece) :
    lay unit spot (first ++ second) = lay unit spot first ++ lay unit (spot.behind first) second := by
  induction first generalizing spot with
  | nil => rfl
  | cons piece first ih =>
      rw [List.cons_append, lay, lay, ih, List.append_assoc]
      rfl

/-- Blanks do not change the depth. -/
theorem deepen_ofGap (gap : List Char) (depth : Nat) :
    (Piece.ofGap gap).foldl (fun depth piece => piece.deepen depth) depth = depth := by
  unfold Piece.ofGap
  split <;> rfl

theorem deepen_settled (piece : Piece) (indentation : List Char) (depth : Nat) :
    (piece.settled indentation).deepen depth = piece.deepen depth := by
  cases piece <;> rfl

/-- What is laid out for pieces opens and closes the braces of the pieces. -/
theorem deepen_lay (unit : List Char) (spot : Spot) (pieces : List Piece) (depth : Nat) :
    (lay unit spot pieces).foldl (fun depth piece => piece.deepen depth) depth =
      pieces.foldl (fun depth piece => piece.deepen depth) depth := by
  induction pieces generalizing spot depth with
  | nil => rfl
  | cons piece pieces ih =>
      rw [lay, List.foldl_append, ih, List.foldl_cons]
      by_cases gap : ∃ text, piece = .blanks text
      · obtain ⟨text, rfl⟩ := gap
        rfl
      · rw [layPiece_of_notBlank _ _ fun text same => gap ⟨text, same⟩, List.foldl_append,
          deepen_ofGap, List.foldl_cons, List.foldl_nil, deepen_settled]

/-- The layout of a text is that of its pieces. -/
theorem toList_format (options : LayoutOptions) (source : String) :
    (format options source).toList =
      (lay options.indentUnit .start (Piece.split source.toList)).flatMap Piece.text := by
  rw [format, String.toList_ofList, text_draft]

/-- The part of a layout that belongs to one piece of the source. -/
structure Stretch (unit : List Char) (pieces : List Piece) where
  /-- The pieces before it. -/
  done : List Piece
  piece : Piece
  /-- The pieces behind it. -/
  rest : List Piece
  whole : done ++ piece :: rest = pieces
  notBlank : ∀ gap, piece ≠ .blanks gap

namespace Stretch

variable (stretch : Stretch unit pieces)

/-- The piece of a stretch is one of the pieces that are laid out. -/
theorem piece_mem : stretch.piece ∈ pieces := by
  have among : stretch.piece ∈ stretch.done ++ stretch.piece :: stretch.rest :=
    List.mem_append_right _ (List.mem_cons_self ..)
  rwa [stretch.whole] at among

/-- The spot behind the pieces before. -/
def reached : Spot := Spot.start.behind stretch.done

/-- The spot at which the piece is written. -/
def spot : Spot := stretch.reached.approach stretch.piece

/-- The layout before the stretch. -/
def before : List Char := (lay unit .start stretch.done).flatMap Piece.text

/-- The blanks with which the stretch begins. -/
def gap : List Char := stretch.spot.gap unit

/-- The piece as it is laid out. -/
def settled : Piece := stretch.piece.settled (stretch.spot.indentation unit)

/-- The layout behind the stretch. -/
def after : List Char :=
  (lay unit (stretch.reached.after stretch.piece) stretch.rest).flatMap Piece.text

/-- A layout is what stands before a stretch, the stretch, and what stands behind it. -/
theorem lay_eq : lay unit .start pieces =
    lay unit .start stretch.done ++ (Piece.ofGap stretch.gap ++
      stretch.settled :: lay unit (stretch.reached.after stretch.piece) stretch.rest) := by
  conv_lhs => rw [← stretch.whole]
  rw [lay_append, lay, layPiece_of_notBlank _ _ stretch.notBlank, List.append_assoc]
  rfl

/-- A character stands in a stretch, in its gap or in its piece. -/
inductive Holds (start : List Char) (character : Char) (tail : List Char) : Prop
  | gap (left right : List Char) (inside : stretch.gap = left ++ character :: right)
      (front : start = stretch.before ++ left)
      (back : tail = right ++ (stretch.settled.text ++ stretch.after))
  | piece (left right : List Char) (inside : stretch.settled.text = left ++ character :: right)
      (front : start = stretch.before ++ stretch.gap ++ left)
      (back : tail = right ++ stretch.after)

end Stretch

/-- **Stretches.** Every character of a layout stands in a stretch. -/
theorem exists_stretch {start tail : List Char} {character : Char}
    (cut : (lay unit .start pieces).flatMap Piece.text = start ++ character :: tail) :
    ∃ stretch : Stretch unit pieces, stretch.Holds start character tail := by
  -- the pieces are gone through with those that are done, up to the one with the character
  suffices search : ∀ rest done front, done ++ rest = pieces →
      (lay unit (Spot.start.behind done) rest).flatMap Piece.text = front ++ character :: tail →
      ∃ stretch : Stretch unit pieces, stretch.Holds
        ((lay unit .start done).flatMap Piece.text ++ front) character tail from
    search pieces [] start rfl cut
  intro rest
  induction rest with
  | nil =>
      intro done front _ none
      exact absurd none.symm (List.append_ne_nil_of_right_ne_nil _ (List.cons_ne_nil _ _))
  | cons piece rest ih =>
      intro done front whole cut
      have onward : done ++ [piece] ++ rest = pieces := by
        rw [List.append_assoc]
        exact whole
      have behind : Spot.start.behind (done ++ [piece]) =
          (Spot.start.behind done).after piece := List.foldl_concat ..
      have longer : (lay unit .start (done ++ [piece])).flatMap Piece.text =
          (lay unit .start done).flatMap Piece.text ++
            (layPiece unit (Spot.start.behind done) piece).flatMap Piece.text := by
        rw [lay_append, List.flatMap_append, lay, lay, List.append_nil]
      rw [lay, List.flatMap_append] at cut
      rcases append_eq_append_cons cut with ⟨right, inside, rfl⟩ | ⟨left, rfl, inside⟩
      · by_cases gap : ∃ text, piece = .blanks text
        · obtain ⟨text, rfl⟩ := gap
          exact absurd inside.symm (List.append_ne_nil_of_right_ne_nil _ (List.cons_ne_nil _ _))
        · have notBlank : ∀ text, piece ≠ .blanks text := fun text same => gap ⟨text, same⟩
          refine ⟨⟨done, piece, rest, whole, notBlank⟩, ?_⟩
          rw [flatMap_text_layPiece _ _ notBlank] at inside
          rcases append_eq_append_cons inside with ⟨more, inGap, rfl⟩ | ⟨left, rfl, inPiece⟩
          · exact .gap front more inGap rfl (List.append_assoc ..)
          · exact .piece left right inPiece (List.append_assoc ..).symm rfl
      · obtain ⟨stretch, holds⟩ := ih (done ++ [piece]) left onward (by rwa [behind])
        refine ⟨stretch, ?_⟩
        rwa [longer, List.append_assoc] at holds

namespace Stretch

variable (stretch : Stretch unit pieces)

section

variable (stand : Piece.AllStand pieces)
include stand

/-- The piece of a stretch and those behind it stand in the text. -/
theorem allStand_rest : Piece.AllStand (stretch.piece :: stretch.rest) := by
  rw [← stretch.whole] at stand
  exact stand.of_append

/-- The piece of a stretch stands before the text of those behind it. -/
theorem stands : stretch.piece.Stands (stretch.rest.flatMap Piece.text) :=
  (stretch.allStand_rest stand).1

variable (indents : IsIndentation unit)
include indents

/-- The piece of a stretch stands, once laid out, before what is laid out behind it. -/
theorem stands_settled : stretch.settled.Stands stretch.after := by
  have behind := stretch.allStand_rest stand
  exact Layout.stands_settled indents.blank stretch.notBlank stretch.reached behind.1 behind.2

/-- The piece of a stretch begins, once laid out, with something to see. -/
theorem beginsInked_settled : BeginsInked stretch.settled.text := by
  refine Piece.beginsInked_of_stands (stretch.stands_settled stand indents) ?_
  exact Piece.settled_ne_blanks stretch.notBlank _

/-- The stretch is laid out behind ink, or before everything else. -/
theorem continues_reached : Spot.Continues stretch.before stretch.reached := by
  have whole := stretch.whole
  have ends : ∀ piece ∈ stretch.done, (∀ gap, piece ≠ .blanks gap) → piece.SettlesInked := by
    rw [← whole] at stand
    refine stand.settlesInked ?_
    have nonempty := (stretch.stands (whole ▸ stand)).text_ne_nil
    exact List.append_ne_nil_of_left_ne_nil nonempty _
  have reached := Spot.Continues.textStart.behind indents ends
  rwa [List.nil_append] at reached

/-- The spot of a stretch continues what is laid out before it. -/
theorem continues : Spot.Continues stretch.before stretch.spot :=
  (stretch.continues_reached stand indents).approach stretch.piece

omit stand in
/-- There are only blanks in the gap of a stretch. -/
theorem isBlank_of_gap {left right : List Char} {character : Char}
    (inside : stretch.gap = left ++ character :: right) : isBlank character = true := by
  refine Spot.isBlank_of_mem_gap indents.blank stretch.spot character ?_
  have whole : stretch.spot.gap unit = left ++ character :: right := inside
  rw [whole]
  exact List.mem_append_right _ (List.mem_cons_self ..)

/-- The reader before the stretch, at its gap. -/
theorem context_before :
    (Context.of stretch.before).AtBorder (stretch.gap ++ (stretch.settled.text ++ stretch.after)) ∧
      (Context.of stretch.before).depth = stretch.reached.depth := by
  have laid := allStand_lay indents.blank .start stand
  rw [stretch.lay_eq] at laid
  have read := Context.read_pieces laid (.code 0 _)
  rw [deepen_lay, List.flatMap_append, Piece.flatMap_text_ofGap] at read
  rw [reached, Spot.depth_behind]
  exact read

/-- The reader behind the gap of the stretch, at its piece. -/
theorem context_gap :
    (Context.of (stretch.before ++ stretch.gap)).AtBorder
        (stretch.settled.text ++ stretch.after) ∧
      (Context.of (stretch.before ++ stretch.gap)).depth = stretch.reached.depth := by
  have laid := allStand_lay indents.blank .start stand
  rw [stretch.lay_eq, ← List.append_assoc] at laid
  have read := Context.read_pieces laid (.code 0 _)
  rw [List.foldl_append, deepen_lay, deepen_ofGap, List.flatMap_append,
    Piece.flatMap_text_ofGap] at read
  rw [reached, Spot.depth_behind]
  exact read

/-- Within the gap of the stretch the reader sees code. -/
theorem context_in_gap {left right : List Char} (inside : stretch.gap = left ++ right)
    (nonempty : left ≠ []) :
    Context.of (stretch.before ++ left) = .code stretch.reached.depth := by
  obtain ⟨border, depth⟩ := stretch.context_before stand indents
  have blank : ∀ character ∈ left, isBlank character = true := by
    intro character member
    refine Spot.isBlank_of_mem_gap indents.blank stretch.spot character ?_
    have whole : stretch.spot.gap unit = left ++ right := inside
    rw [whole]
    exact List.mem_append_left _ member
  rw [inside, List.append_assoc] at border
  rw [Context.of_append, border.read_eq nonempty, Context.read_blanks blank, depth]

/-- The reader behind some of the characters of the piece. -/
theorem sees {left right : List Char} {character : Char}
    (inside : stretch.settled.text = left ++ character :: right) (nonempty : left ≠ []) :
    stretch.settled.Sees stretch.reached.depth left
      (Context.of (stretch.before ++ stretch.gap ++ left)) := by
  obtain ⟨border, depth⟩ := stretch.context_gap stand indents
  rw [Context.of_append, ← depth]
  exact (stretch.stands_settled stand indents).sees border inside nonempty

end

/-- Behind a piece that ends its line the line ends. -/
theorem endsLine_after {blankLine : Bool}
    (ends : (stretch.reached.after stretch.piece).place = .lineStart blankLine) :
    EndsLine stretch.after :=
  lineFeed_lay ends

end Stretch

/-- A layout begins with ink. -/
theorem beginsInked_lay (stand : Piece.AllStand pieces) (indents : IsIndentation unit)
    (nonempty : (lay unit .start pieces).flatMap Piece.text ≠ []) :
    BeginsInked ((lay unit .start pieces).flatMap Piece.text) := by
  obtain ⟨first, more, shape⟩ := List.exists_cons_of_ne_nil nonempty
  rw [shape]
  obtain ⟨stretch, holds⟩ := exists_stretch (shape.trans (List.nil_append _).symm)
  cases holds with
  | gap left right inside front back =>
      have continues := stretch.continues stand indents
      rw [(List.append_eq_nil_iff.mp front.symm).1] at continues
      have none : stretch.gap = [] := continues.gap_eq_nil
      rw [none] at inside
      exact absurd inside.symm (List.append_ne_nil_of_right_ne_nil _ (List.cons_ne_nil _ _))
  | piece left right inside front back =>
      rw [(List.append_eq_nil_iff.mp front.symm).2] at inside
      obtain ⟨other, others, spelled, inked⟩ := stretch.beginsInked_settled stand indents
      obtain rfl := (List.cons.inj (spelled.symm.trans inside)).1
      exact ⟨other, more, rfl, inked⟩

end Layout

end ModelScribe

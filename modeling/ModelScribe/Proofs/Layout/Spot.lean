import ModelScribe.Layout
import ModelScribe.Proofs.Layout.Comment

/-! # Laying out piece by piece

What is written for a piece of a source depends on little of what has been laid
out before it: the number of open braces, and whether a line is begun
(`ModelScribe.Spot`). What is written is itself given as pieces, the settled
piece behind the blanks before it (`ModelScribe.Layout.lay`).
-/

namespace ModelScribe

open Text

/-- What stands before the next piece of a laid-out text. -/
inductive Place
  /-- Nothing at all. -/
  | textStart
  /-- A line break, or a blank line. -/
  | lineStart (blankLine : Bool)
  /-- A piece on the same line, with or without blanks behind it in the source. -/
  | inLine (spaceDue : Bool)
  deriving DecidableEq

/-- Where the next piece of a laid-out text goes. -/
structure Spot where
  /-- The number of open braces. -/
  depth : Nat
  place : Place
  deriving DecidableEq

namespace Spot

/-- Where the first piece goes. -/
def start : Spot := ⟨0, .textStart⟩

/-- The indentation of a line that begins at the spot. -/
def indentation (unit : List Char) (spot : Spot) : List Char :=
  (List.replicate spot.depth unit).flatten

/-- What holds of all characters of one level holds of all those of an indentation. -/
theorem forall_mem_indentation {unit : List Char} {property : Char → Prop}
    (holds : ∀ character ∈ unit, property character) (spot : Spot) :
    ∀ character ∈ spot.indentation unit, property character := by
  intro character member
  simp only [indentation, List.mem_flatten, List.mem_replicate] at member
  obtain ⟨level, ⟨_, rfl⟩, member⟩ := member
  exact holds character member

/-- The blanks between what has been laid out and the next piece. -/
def gap (unit : List Char) (spot : Spot) : List Char :=
  match spot.place with
  | .textStart => spot.indentation unit
  | .lineStart blankLine =>
      (if blankLine then ['\n', '\n'] else ['\n']) ++ spot.indentation unit
  | .inLine spaceDue => if spaceDue then [' '] else []

/-- The spot after a line break. -/
def breakLine (spot : Spot) : Spot :=
  match spot.place with
  | .inLine _ => ⟨spot.depth, .lineStart false⟩
  | _ => spot

/-- The end of a line does not change the depth. -/
@[simp]
theorem depth_breakLine (spot : Spot) : spot.breakLine.depth = spot.depth := by
  unfold breakLine
  split <;> rfl

/-- The spot of a piece that follows the last one without a space. -/
def hug (spot : Spot) : Spot :=
  match spot.place with
  | .inLine _ => ⟨spot.depth, .inLine false⟩
  | _ => spot

/-- The spot after a blank line, unless nothing comes before it. -/
def leaveBlank (spot : Spot) : Spot :=
  match spot.place with
  | .lineStart _ => ⟨spot.depth, .lineStart true⟩
  | _ => spot

/-- The spot after a run of blanks with so many line feeds. -/
def pause (lineFeeds : Nat) (spot : Spot) : Spot :=
  if 0 < spot.depth ∨ lineFeeds = 0 then
    match spot.place with
    | .inLine _ => ⟨spot.depth, .inLine true⟩
    | _ => spot
  else if 2 ≤ lineFeeds then spot.breakLine.leaveBlank
  else spot.breakLine

theorem pause_textStart (depth lineFeeds : Nat) :
    (⟨depth, .textStart⟩ : Spot).pause lineFeeds = ⟨depth, .textStart⟩ := by
  simp [pause, breakLine, leaveBlank]

/-- Blanks at the start of a line count where they leave a blank line outside of braces. -/
theorem pause_lineStart (depth lineFeeds : Nat) (blankLine : Bool) :
    (⟨depth, .lineStart blankLine⟩ : Spot).pause lineFeeds =
      ⟨depth, .lineStart (blankLine || (depth == 0 && decide (2 ≤ lineFeeds)))⟩ := by
  unfold pause
  by_cases within : 0 < depth ∨ lineFeeds = 0
  · have kept : (depth == 0 && decide (2 ≤ lineFeeds)) = false := by
      rw [Bool.and_eq_false_iff, beq_eq_false_iff_ne, decide_eq_false_iff_not]
      omega
    simp only [within, ↓reduceIte, kept, Bool.or_false]
  · obtain rfl : depth = 0 := by omega
    by_cases several : 2 ≤ lineFeeds
    · simp only [within, several, ↓reduceIte, breakLine, leaveBlank, decide_true, beq_self_eq_true,
        Bool.and_true, Bool.or_true]
    · simp only [within, several, ↓reduceIte, breakLine, decide_false, Bool.and_false,
        Bool.or_false]

/-- Blanks within a line ask for a space, or end the line outside of braces. -/
theorem pause_inLine (depth lineFeeds : Nat) (spaceDue : Bool) :
    (⟨depth, .inLine spaceDue⟩ : Spot).pause lineFeeds =
      ⟨depth, if 0 < depth ∨ lineFeeds = 0 then .inLine true
        else .lineStart (decide (2 ≤ lineFeeds))⟩ := by
  unfold pause
  by_cases within : 0 < depth ∨ lineFeeds = 0
  · simp only [within, ↓reduceIte]
  · by_cases several : 2 ≤ lineFeeds
    · simp only [within, several, ↓reduceIte, breakLine, leaveBlank, decide_true]
    · simp only [within, several, ↓reduceIte, breakLine, decide_false]

/-- Blanks do not change the depth. -/
theorem depth_pause (spot : Spot) (lineFeeds : Nat) :
    (spot.pause lineFeeds).depth = spot.depth := by
  obtain ⟨depth, place⟩ := spot
  cases place with
  | textStart => rw [pause_textStart]
  | lineStart blankLine => rw [pause_lineStart]
  | inLine spaceDue => rw [pause_inLine]

/-- The spot at which a piece is written. -/
def approach (spot : Spot) : Piece → Spot
  | .comma | .semicolon | .closer _ => spot.hug
  | .blockComment _ => spot.breakLine
  | .closeBrace => ⟨spot.depth - 1, spot.breakLine.place⟩
  | _ => spot

/-- The spot after a piece. -/
def after (spot : Spot) : Piece → Spot
  | .blanks text => spot.pause (text.count '\n')
  | .openBrace => ⟨spot.depth + 1, .lineStart false⟩
  | .closeBrace => ⟨spot.depth - 1, .inLine false⟩
  | .comma => ⟨spot.depth, if 0 < spot.depth then .lineStart false else .inLine false⟩
  | .semicolon | .lineComment _ | .blockComment _ => ⟨spot.depth, .lineStart false⟩
  | .literal _ | .emptyBraces _ | .closer _ | .plain _ => ⟨spot.depth, .inLine false⟩

end Spot

namespace Piece

/-- A piece as it is laid out at an indentation. -/
def settled (indentation : List Char) : Piece → Piece
  | literal text => literal (trimEnd text)
  | lineComment text => lineComment (trimEnd text)
  | blockComment text => blockComment (Draft.settledComment indentation text)
  | emptyBraces _ => emptyBraces []
  | piece => piece

/-- A piece that is no gap is none once it is laid out. -/
theorem settled_ne_blanks {piece : Piece} (notBlank : ∀ gap, piece ≠ .blanks gap)
    (indentation gap : List Char) : piece.settled indentation ≠ .blanks gap := by
  cases piece with
  | blanks text => exact absurd rfl (notBlank text)
  | _ => exact Piece.noConfusion

theorem eq_nil_of_settled {piece : Piece} {indentation gap : List Char}
    (same : piece.settled indentation = emptyBraces gap) : gap = [] := by
  cases piece <;> simp_all [settled]

/-- Only a block comment is laid out as one. -/
theorem eq_blockComment_of_settled {piece : Piece} {indentation text : List Char}
    (same : piece.settled indentation = blockComment text) :
    ∃ source, piece = blockComment source := by
  cases piece <;> simp_all [settled]

/-- Blanks as pieces. -/
def ofGap (gap : List Char) : List Piece :=
  if gap = [] then [] else [blanks gap]

/-- The pieces of a gap have its text. -/
@[simp]
theorem flatMap_text_ofGap (gap : List Char) : (ofGap gap).flatMap text = gap := by
  unfold ofGap
  split
  · next empty => rw [empty]; rfl
  · simp [text]

end Piece

namespace Layout

/-- What is laid out for a piece at a spot: nothing for blanks, else the piece behind a gap. -/
def layPiece (unit : List Char) (spot : Spot) : Piece → List Piece
  | .blanks _ => []
  | piece =>
      Piece.ofGap ((spot.approach piece).gap unit) ++
        [piece.settled ((spot.approach piece).indentation unit)]

/-- A piece that is no gap is laid out behind the gap of the spot where it is approached. -/
theorem layPiece_of_notBlank (unit : List Char) (spot : Spot) {piece : Piece}
    (notBlank : ∀ gap, piece ≠ .blanks gap) :
    layPiece unit spot piece = Piece.ofGap ((spot.approach piece).gap unit) ++
      [piece.settled ((spot.approach piece).indentation unit)] := by
  cases piece with
  | blanks text => exact absurd rfl (notBlank text)
  | _ => rfl

/-- The text of a piece stands behind that of its gap. -/
theorem flatMap_text_layPiece (unit : List Char) (spot : Spot) {piece : Piece}
    (notBlank : ∀ gap, piece ≠ .blanks gap) :
    (layPiece unit spot piece).flatMap Piece.text = (spot.approach piece).gap unit ++
      (piece.settled ((spot.approach piece).indentation unit)).text := by
  rw [layPiece_of_notBlank _ _ notBlank, List.flatMap_append, Piece.flatMap_text_ofGap,
    List.flatMap_singleton]

/-- The pieces of a laid-out text, from those of its source. -/
def lay (unit : List Char) : Spot → List Piece → List Piece
  | _, [] => []
  | spot, piece :: pieces => layPiece unit spot piece ++ lay unit (spot.after piece) pieces

end Layout

end ModelScribe

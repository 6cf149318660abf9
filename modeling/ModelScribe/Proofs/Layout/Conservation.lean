import ModelScribe.Proofs.Layout.Rendering

/-! # Conservation of ink

Laying a source out moves, drops and adds blanks only. What is laid out for a
piece has the ink of the piece (`ModelScribe.Layout.ink_layPiece`), so a whole
source keeps its ink (`ModelScribe.Layout.ink_format`), whether or not its
braces, strings and comments are closed.
-/

namespace ModelScribe

open Text

namespace Spot

/-- Between two pieces there are only blanks. -/
theorem isBlank_of_mem_gap {unit : List Char}
    (indents : ∀ character ∈ unit, isBlank character = true) (spot : Spot) :
    ∀ character ∈ spot.gap unit, isBlank character = true := by
  intro character member
  have level := forall_mem_indentation indents spot
  unfold gap at member
  split at member
  · exact level character member
  · rcases List.mem_append.mp member with member | member
    · split at member
      · simp only [List.mem_cons, List.not_mem_nil, or_false, or_self] at member
        rw [member]
        decide
      · rw [List.mem_singleton.mp member]
        decide
    · exact level character member
  · split at member
    · rw [List.mem_singleton.mp member]
      decide
    · exact absurd member List.not_mem_nil

end Spot

namespace Piece

theorem ink_text_blanks {gap rest : List Char} (stands : (blanks gap).Stands rest) :
    ink (blanks gap).text = [] :=
  ink_of_blank stands.2.1

/-- A settled piece has the ink of the piece. -/
theorem ink_text_settled {piece : Piece} {rest indentation : List Char}
    (stands : piece.Stands rest)
    (indents : ∀ character ∈ indentation, isBlank character = true) :
    ink (piece.settled indentation).text = ink piece.text := by
  cases piece with
  | literal text => exact ink_trimEnd text
  | lineComment text => exact ink_trimEnd text
  | blockComment text => exact Draft.ink_settledComment indents text
  | emptyBraces gap =>
      have inside : ink gap = [] := ink_of_blank stands
      calc ink ('{' :: [] ++ ['}']) = ink ['{'] ++ ink gap ++ ink ['}'] := by
            rw [inside]
            rfl
        _ = ink ('{' :: gap ++ ['}']) := by
            rw [← ink_append, ← ink_append]
            rfl
  | _ => rfl

end Piece

namespace Layout

/-- **Conservation step.** What is laid out for a piece has the ink of the piece. -/
theorem ink_layPiece {unit : List Char} (indents : ∀ character ∈ unit, isBlank character = true)
    (spot : Spot) {piece : Piece} {rest : List Char} (stands : piece.Stands rest) :
    ink ((layPiece unit spot piece).flatMap Piece.text) = ink piece.text := by
  by_cases gap : ∃ text, piece = .blanks text
  · obtain ⟨text, rfl⟩ := gap
    exact (Piece.ink_text_blanks stands).symm
  · have notBlank : ∀ text, piece ≠ .blanks text := fun text same => gap ⟨text, same⟩
    rw [flatMap_text_layPiece _ _ notBlank, ink_append,
      ink_of_blank (Spot.isBlank_of_mem_gap indents _), List.nil_append]
    exact Piece.ink_text_settled stands (Spot.forall_mem_indentation indents _)

/-- Pieces laid out one after the other have the ink of the pieces. -/
theorem ink_lay {unit : List Char} (indents : ∀ character ∈ unit, isBlank character = true)
    (spot : Spot) {pieces : List Piece} (stand : Piece.AllStand pieces) :
    ink ((lay unit spot pieces).flatMap Piece.text) = ink (pieces.flatMap Piece.text) := by
  induction pieces generalizing spot with
  | nil => rfl
  | cons piece pieces ih =>
      rw [lay, List.flatMap_append, ink_append, ink_layPiece indents spot stand.1,
        ih (spot.after piece) stand.2, List.flatMap_cons, ink_append]

/-- **Conservation.** Without their blanks, a source and its layout are the same text. -/
theorem ink_format (options : LayoutOptions) (source : String) :
    ink (format options source).toList = ink source.toList := by
  rw [format, String.toList_ofList, text_draft,
    ink_lay options.isIndentation_indentUnit.blank _ (Piece.allStand_split source.toList),
    Piece.flatMap_text_split]

end Layout

end ModelScribe

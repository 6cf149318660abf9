import ModelScribe.Proofs.Layout.Conservation

/-! # Cutting a laid-out text

A laid-out text is cut into the pieces that were laid out
(`ModelScribe.Layout.split_format`). No gap that was left out has joined two
pieces, since closing punctuation begins no comment and ends every word
(`ModelScribe.Layout.separates_lay`), and no gap that was put in parts a piece or
fills the braces of an empty pair.
-/

namespace ModelScribe

open Text

namespace Spot

/-- A word that ends here is not continued by what is laid out next. -/
def Parted (spot : Spot) : Prop :=
  (∃ blankLine, spot.place = .lineStart blankLine) ∨ spot.place = .inLine true

/-- Blanks behind a piece part it from the next one. -/
theorem parted_pause {spot : Spot} (begun : spot.place ≠ .textStart) (lineFeeds : Nat) :
    (spot.pause lineFeeds).Parted := by
  obtain ⟨depth, place⟩ := spot
  cases place with
  | textStart => exact absurd rfl begun
  | lineStart blankLine =>
      rw [pause_lineStart]
      exact .inl ⟨_, rfl⟩
  | inLine spaceDue =>
      rw [pause_inLine]
      by_cases within : 0 < depth ∨ lineFeeds = 0
      · rw [if_pos within]
        exact .inr rfl
      · rw [if_neg within]
        exact .inl ⟨_, rfl⟩

theorem Parted.begun {spot : Spot} (parted : spot.Parted) : spot.place ≠ .textStart := by
  rcases parted with ⟨blankLine, place⟩ | place <;> simp [place]

theorem Parted.breakLine {spot : Spot} (parted : spot.Parted) :
    ∃ blankLine, spot.breakLine.place = .lineStart blankLine := by
  unfold Spot.breakLine
  rcases parted with ⟨blankLine, place⟩ | place <;> simp [place]

/-- What is written at a parted spot comes behind blanks. -/
theorem Parted.gap_ne_nil {spot : Spot} (parted : spot.Parted) (unit : List Char) :
    spot.gap unit ≠ [] := by
  unfold Spot.gap
  rcases parted with ⟨blankLine, place⟩ | place
  · cases blankLine <;> simp [place]
  · simp [place]

/-- Blanks do not move the start of a line. -/
theorem lineStart_pause {spot : Spot} {blankLine : Bool}
    (place : spot.place = .lineStart blankLine) (lineFeeds : Nat) :
    ∃ blankLine, (spot.pause lineFeeds).place = .lineStart blankLine := by
  obtain ⟨depth, _⟩ := spot
  obtain rfl := place
  rw [pause_lineStart]
  exact ⟨_, rfl⟩

theorem gap_lineStart {spot : Spot} {blankLine : Bool} (place : spot.place = .lineStart blankLine)
    (unit : List Char) : ∃ more, spot.gap unit = '\n' :: more := by
  unfold Spot.gap
  cases blankLine with
  | false => exact ⟨spot.indentation unit, by simp [place]⟩
  | true => exact ⟨'\n' :: spot.indentation unit, by simp [place]⟩

end Spot

namespace Piece

/-- Setting a piece does not change how it begins. -/
theorem head?_text_settled {piece : Piece} {rest indentation : List Char}
    (stands : piece.Stands rest)
    (indents : ∀ character ∈ indentation, isBlank character = true) :
    (piece.settled indentation).text.head? = piece.text.head? := by
  cases piece with
  | literal text =>
      obtain ⟨first, more, rfl, inked⟩ := beginsInked_of_stands stands (by simp)
      simp only [settled, Piece.text, trimEnd_cons_of_inked inked, List.head?_cons]
  | lineComment text =>
      obtain ⟨first, more, rfl, inked⟩ := beginsInked_of_stands stands (by simp)
      simp only [settled, Piece.text, trimEnd_cons_of_inked inked, List.head?_cons]
  | blockComment text =>
      obtain ⟨inside, closed, rfl, belongs, _⟩ := stands
      obtain ⟨settled, shape, _⟩ := Draft.commentInside_settledComment indents belongs
      simp only [Piece.settled, Piece.text, shape, List.head?_cons]
  | _ => rfl

/-- At a parted spot everything is written behind a blank, but for closing punctuation. -/
theorem separates_approach {spot : Spot} (parted : spot.Parted) (unit : List Char) {piece : Piece}
    {rest : List Char} (stands : piece.Stands rest) :
    (spot.approach piece).gap unit ≠ [] ∨ ∀ mark ∈ piece.text.head?, isSeparator mark = true := by
  cases piece with
  | comma => exact .inr (by simp [text, isSeparator])
  | semicolon => exact .inr (by simp [text, isSeparator])
  | closer character =>
      have closing : isCloser character = true := stands
      exact .inr (by simp [text, isSeparator, closing])
  | blockComment text => exact .inl (Spot.Parted.gap_ne_nil (.inl parted.breakLine) unit)
  | closeBrace =>
      have below : Spot.Parted ⟨spot.depth - 1, spot.breakLine.place⟩ := .inl parted.breakLine
      exact .inl (below.gap_ne_nil unit)
  | _ => exact .inl (parted.gap_ne_nil unit)

/-- What is written at the start of a line comes behind a line feed. -/
theorem lineFeed_approach {spot : Spot} {blankLine : Bool}
    (place : spot.place = .lineStart blankLine) (unit : List Char) (piece : Piece) :
    ∃ more, (spot.approach piece).gap unit = '\n' :: more := by
  have broken : spot.breakLine.place = .lineStart blankLine := by
    simp only [Spot.breakLine, place]
  have hugged : spot.hug.place = .lineStart blankLine := by
    simp only [Spot.hug, place]
  cases piece with
  | comma => exact Spot.gap_lineStart hugged unit
  | semicolon => exact Spot.gap_lineStart hugged unit
  | closer character => exact Spot.gap_lineStart hugged unit
  | blockComment text => exact Spot.gap_lineStart broken unit
  | closeBrace =>
      have below : (⟨spot.depth - 1, spot.breakLine.place⟩ : Spot).place = _ := broken
      exact Spot.gap_lineStart below unit
  | _ => exact Spot.gap_lineStart place unit

end Piece

namespace Layout

variable {unit : List Char} {pieces : List Piece}

/-- What is laid out for a piece begins with a blank, or as the piece does. -/
theorem head?_layPiece (indents : ∀ character ∈ unit, isBlank character = true) (spot : Spot)
    {piece : Piece} {rest : List Char} (stands : piece.Stands rest)
    (notBlank : ∀ gap, piece ≠ .blanks gap) (more : List Char) :
    ∀ next ∈ ((layPiece unit spot piece).flatMap Piece.text ++ more).head?,
      isBlank next = true ∨ ((spot.approach piece).gap unit = [] ∧ next ∈ piece.text.head?) := by
  intro next member
  rw [flatMap_text_layPiece _ _ notBlank] at member
  cases left : (spot.approach piece).gap unit with
  | nil =>
      obtain ⟨first, others, whole, _⟩ := Piece.beginsInked_of_stands stands notBlank
      have head := Piece.head?_text_settled stands
        (Spot.forall_mem_indentation indents (spot.approach piece))
      rw [left, List.nil_append, List.head?_append, head, whole] at member
      rw [whole]
      exact .inr ⟨rfl, member⟩
  | cons blank others =>
      have among : blank ∈ (spot.approach piece).gap unit := by
        rw [left]
        exact List.mem_cons_self ..
      rw [left] at member
      obtain rfl : blank = next := by simpa using member
      exact .inl (Spot.isBlank_of_mem_gap indents _ blank among)

/-- What is laid out at a parted spot does not continue a word and begins no comment. -/
theorem separates_lay (indents : ∀ character ∈ unit, isBlank character = true) {spot : Spot}
    (parted : spot.Parted) (stand : Piece.AllStand pieces) :
    ∀ next ∈ ((lay unit spot pieces).flatMap Piece.text).head?,
      Piece.isSeparator next = true := by
  induction pieces generalizing spot with
  | nil => simp [lay]
  | cons piece pieces ih =>
      by_cases gap : ∃ text, piece = .blanks text
      · obtain ⟨text, rfl⟩ := gap
        exact ih (Spot.parted_pause parted.begun _) stand.2
      · intro next member
        rw [lay, List.flatMap_append] at member
        rcases head?_layPiece indents spot stand.1 (fun text same => gap ⟨text, same⟩) _ next member
          with blank | ⟨left, first⟩
        · simp [Piece.isSeparator, blank]
        · rcases Piece.separates_approach parted unit stand.1 with apart | separates
          · exact absurd left apart
          · exact separates next first

/-- What is laid out behind a piece on its line begins with a separator or as the source does. -/
theorem head?_lay_inLine (indents : ∀ character ∈ unit, isBlank character = true) {spot : Spot}
    {spaceDue : Bool} (place : spot.place = .inLine spaceDue) (stand : Piece.AllStand pieces) :
    ∀ next ∈ ((lay unit spot pieces).flatMap Piece.text).head?,
      Piece.isSeparator next = true ∨ next ∈ (pieces.flatMap Piece.text).head? := by
  cases pieces with
  | nil => simp [lay]
  | cons piece pieces =>
      intro next member
      by_cases gap : ∃ text, piece = .blanks text
      · obtain ⟨text, rfl⟩ := gap
        have begun : spot.place ≠ .textStart := by simp [place]
        have parted := Spot.parted_pause begun (text.count '\n')
        exact .inl (separates_lay indents parted stand.2 next member)
      · rw [lay, List.flatMap_append] at member
        rcases head?_layPiece indents spot stand.1 (fun text same => gap ⟨text, same⟩) _ next member
          with blank | ⟨_, first⟩
        · exact .inl (by simp [Piece.isSeparator, blank])
        · right
          rw [List.flatMap_cons, List.head?_append, Option.mem_def.mp first]
          rfl

/-- What is laid out at the start of a line begins with a line feed. -/
theorem lineFeed_lay {spot : Spot} {blankLine : Bool} (place : spot.place = .lineStart blankLine) :
    ∀ next ∈ ((lay unit spot pieces).flatMap Piece.text).head?, next = '\n' := by
  induction pieces generalizing spot blankLine with
  | nil => simp [lay]
  | cons piece pieces ih =>
      by_cases gap : ∃ text, piece = .blanks text
      · obtain ⟨text, rfl⟩ := gap
        obtain ⟨blankLine, paused⟩ := Spot.lineStart_pause place (text.count '\n')
        exact ih paused
      · obtain ⟨more, left⟩ := Piece.lineFeed_approach place unit piece
        rw [lay, List.flatMap_append,
          flatMap_text_layPiece _ _ fun text same => gap ⟨text, same⟩, left]
        simp

/-- Nothing is laid out for no text. -/
theorem lay_eq_nil (unit : List Char) (spot : Spot) (stand : Piece.AllStand pieces)
    (none : pieces.flatMap Piece.text = []) :
    (lay unit spot pieces).flatMap Piece.text = [] := by
  cases pieces with
  | nil => rfl
  | cons next pieces =>
      obtain ⟨character, more, whole, _⟩ := Piece.first_of_stands stand.1
      rw [List.flatMap_cons, whole] at none
      exact absurd none (List.cons_ne_nil _ _)

/-- What stands before a source stands before its layout once it is set. -/
theorem stands_settled {piece : Piece} (indents : ∀ character ∈ unit, isBlank character = true)
    (notBlank : ∀ gap, piece ≠ .blanks gap) (spot : Spot)
    (stands : piece.Stands (pieces.flatMap Piece.text)) (stand : Piece.AllStand pieces) :
    (piece.settled ((spot.approach piece).indentation unit)).Stands
      ((lay unit (spot.after piece) pieces).flatMap Piece.text) := by
  have last := lay_eq_nil unit (spot.after piece) stand
  cases piece with
  | literal text =>
      obtain ⟨quote, inside, closed, quoted, rfl, belongs, ends⟩ := stands
      obtain ⟨kept, trimmed, set, _⟩ := Piece.exists_trimEnd_literal quoted belongs
      exact ⟨quote, kept, closed, quoted, trimmed, set, fun opens => last (ends opens)⟩
  | blockComment text =>
      obtain ⟨inside, closed, rfl, belongs, ends⟩ := stands
      obtain ⟨settled, shape, belongs⟩ := Draft.commentInside_settledComment
        (Spot.forall_mem_indentation indents (spot.approach (.blockComment _))) belongs
      exact ⟨settled, closed, shape, belongs, fun opens => last (ends opens)⟩
  | lineComment text =>
      obtain ⟨inside, rfl, noFeed, _⟩ := stands
      refine ⟨trimEnd inside, ?_, ?_, lineFeed_lay rfl⟩
      · rw [trimEnd_cons_of_inked (by decide), trimEnd_cons_of_inked (by decide)]
      · exact fun feed => noFeed (mem_of_mem_trimEnd feed)
  | blanks text => exact absurd rfl (notBlank text)
  | openBrace =>
      have same := ink_lay indents (spot.after .openBrace) stand
      have more : (ink (pieces.flatMap Piece.text)).head? ≠ some '}' := by
        rw [← head?_dropWhile_isBlank]
        exact stands
      rwa [← same, ← head?_dropWhile_isBlank] at more
  | emptyBraces gap => exact fun character member => absurd member List.not_mem_nil
  | closeBrace => trivial
  | comma => trivial
  | semicolon => trivial
  | closer character => exact stands
  | plain character =>
      refine ⟨stands.1, fun slash next member => ?_⟩
      rcases head?_lay_inLine indents rfl stand next member with
        separates | first
      · constructor <;> rintro rfl <;> exact absurd separates (by decide)
      · exact stands.2 slash next first

/-- **Standing of laid-out pieces.** Where the pieces of a source stand one before the other, so do
the pieces that are laid out for them. -/
theorem allStand_lay (indents : ∀ character ∈ unit, isBlank character = true) (spot : Spot)
    (stand : Piece.AllStand pieces) : Piece.AllStand (lay unit spot pieces) := by
  induction pieces generalizing spot with
  | nil => trivial
  | cons piece pieces ih =>
      by_cases gap : ∃ text, piece = .blanks text
      · obtain ⟨text, rfl⟩ := gap
        exact ih (spot.after (.blanks text)) stand.2
      · have notBlank : ∀ text, piece ≠ .blanks text := fun text same => gap ⟨text, same⟩
        have settled := stands_settled indents notBlank spot stand.1 stand.2
        have behind : Piece.AllStand (piece.settled ((spot.approach piece).indentation unit) ::
            lay unit (spot.after piece) pieces) := ⟨settled, ih (spot.after piece) stand.2⟩
        rw [lay, layPiece_of_notBlank _ _ notBlank, List.append_assoc, List.singleton_append]
        by_cases left : (spot.approach piece).gap unit = []
        · rw [Piece.ofGap, if_pos left]
          exact behind
        · rw [Piece.ofGap, if_neg left, List.singleton_append]
          refine ⟨⟨left, Spot.isBlank_of_mem_gap indents _, ?_⟩, behind⟩
          obtain ⟨first, more, whole, inked⟩ := Piece.beginsInked_of_stands stand.1 notBlank
          have head := Piece.head?_text_settled stand.1
            (Spot.forall_mem_indentation indents (spot.approach piece))
          intro next member
          rw [List.flatMap_cons, List.head?_append, head, whole] at member
          obtain rfl : first = next := by simpa using member
          exact inked

/-- **Recutting.** A layout is cut into the pieces that were laid out. -/
theorem split_format (options : LayoutOptions) (source : String) :
    Piece.split (format options source).toList =
      lay options.indentUnit .start (Piece.split source.toList) := by
  rw [format, String.toList_ofList, text_draft]
  exact Piece.split_flatMap_text
    (allStand_lay options.isIndentation_indentUnit.blank _ (Piece.allStand_split source.toList))

end Layout

end ModelScribe

import ModelScribe.Proofs.Layout.Writing
import ModelScribe.Proofs.Module.Printed

/-! # The layout of the header

The header is a comment, each line of which is set by itself
(`ModelScribe.Printed.writes_header`). A stamp neither closes the comment nor ends
a line of it, as it is made of digits and a few marks
(`ModelScribe.Stamp.isMarked_text`).
-/

namespace ModelScribe

open Layout Text

namespace Stamp

/-- A text of digits and the marks between them. -/
def IsMarked (text : String) : Prop :=
  ∀ character ∈ text.toList, character.isDigit = true ∨ character ∈ ['-', '+', '/', ':', ' ']

instance (text : String) : Decidable (IsMarked text) :=
  List.decidableBAll _ text.toList

/-- Two texts of marked characters are one. -/
theorem IsMarked.append {first second : String} (one : IsMarked first) (other : IsMarked second) :
    IsMarked (first ++ second) := by
  intro character member
  rw [String.toList_append, List.mem_append] at member
  exact member.elim (one character) (other character)

/-- A number is written in decimal digits. -/
theorem isDigit_of_mem_toString {value : Nat} {character : Char}
    (member : character ∈ (toString value).toList) : character.isDigit = true := by
  rw [Nat.toString_eq_repr, Nat.toList_repr] at member
  exact Nat.isDigit_of_mem_toDigits (by decide) (by decide) member

/-- A character that is pushed stands at the end as often. -/
theorem toList_pushn (text : String) (character : Char) (count : Nat) :
    (text.pushn character count).toList = text.toList ++ List.replicate count character := by
  rw [String.pushn_eq_repeat_push]
  induction count with
  | zero => simp [Nat.repeat]
  | succ count ih =>
      rw [Nat.repeat, String.toList_push, ih, List.append_assoc, List.replicate_succ']

/-- A padded number is written in decimal digits. -/
theorem isDigit_of_mem_padded {width value : Nat} {character : Char}
    (member : character ∈ (padded width value).toList) : character.isDigit = true := by
  rw [padded, String.toList_append, toList_pushn, List.mem_append] at member
  rcases member with member | member
  · simp only [String.toList_empty, List.nil_append, List.mem_replicate] at member
    rw [member.2]
    decide
  · exact isDigit_of_mem_toString member

theorem isMarked_padded (width value : Nat) : IsMarked (padded width value) :=
  fun _ member => .inl (isDigit_of_mem_padded member)

/-- The text of a year is marked. -/
theorem isMarked_yearText (year : Int) : IsMarked (yearText year) := by
  unfold yearText
  split
  · exact isMarked_padded 4 _
  · split
    · exact IsMarked.append (by decide) (isMarked_padded 4 _)
    · exact IsMarked.append (by decide) (isMarked_padded 4 _)

/-- A stamp is made of digits and the marks between them. -/
theorem isMarked_text (stamp : Stamp) : IsMarked stamp.text := by
  have slash : IsMarked "/" := by decide
  have colon : IsMarked ":" := by decide
  have space : IsMarked " " := by decide
  have date := (((isMarked_yearText stamp.year).append slash).append
    (isMarked_padded 2 stamp.month)).append slash |>.append (isMarked_padded 2 stamp.day)
  have time := ((date.append space).append (isMarked_padded 2 stamp.hour)).append colon
  exact ((time.append (isMarked_padded 2 stamp.minute)).append colon).append
    (isMarked_padded 2 stamp.shownSecond)

/-- The text of an integer is marked. -/
theorem isMarked_toString (value : Int) : IsMarked (toString value) := by
  have digits : ∀ value : Nat, IsMarked (Nat.repr value) := fun value character member =>
    .inl (isDigit_of_mem_toString member)
  cases value with
  | ofNat value => exact digits value
  | negSucc value => exact IsMarked.append (by decide) (digits (value + 1))

/-- A stamp ends with a digit. -/
theorem endsInked_text (stamp : Stamp) : EndsInked stamp.text.toList := by
  have digits : (toString stamp.shownSecond).toList ≠ [] := by
    rw [Nat.toString_eq_repr, Nat.toList_repr]
    exact Nat.toDigits_ne_nil
  have inked := isBlank_of_isDigit (isDigit_of_mem_toString (List.getLast_mem digits))
  have ends : EndsInked (toString stamp.shownSecond).toList :=
    ⟨_, _, (List.dropLast_append_getLast digits).symm, inked⟩
  have second : EndsInked (padded 2 stamp.shownSecond).toList := by
    rw [padded, String.toList_append]
    exact ends.append _
  rw [text, String.toList_append]
  exact second.append _

/-- A marked text has neither line feeds nor stars. -/
theorem IsMarked.apart {text : String} (marked : IsMarked text) :
    '\n' ∉ text.toList ∧ '*' ∉ text.toList := by
  constructor
  · intro member
    rcases marked '\n' member with digit | mark
    · exact absurd digit (by decide)
    · exact absurd mark (by decide)
  · intro member
    rcases marked '*' member with digit | mark
    · exact absurd digit (by decide)
    · exact absurd mark (by decide)

end Stamp

namespace Printed

variable {unit : List Char}

/-- The lines of a header but the first, as they are assembled. -/
def starredLines (year time : String) : List (List Char) :=
  ["  *".toList ++ ' ' :: ("Copyright ".toList ++ year.toList ++ " jsonmodel-js".toList),
    "  *".toList ++ ' ' :: ("Auto-generated: ".toList ++ time.toList ++ [' ']),
    "  *".toList, "  *".toList ++ ' ' :: "@author jsonmodel-gen".toList, "  */".toList]

/-- The comment of a header, as it is assembled. -/
def assembledHeader (year time : String) : List Char :=
  List.intercalate ['\n'] ("/**".toList :: starredLines year time)

/-- The assembled header, character by character. -/
theorem toList_assembledHeader (year time : String) :
    ("\n/**\n  * Copyright " ++ year ++ " " ++ runtimePackage ++ "\n  * Auto-generated: " ++ time ++
      " \n  *\n  * @author jsonmodel-gen\n  */").toList = '\n' :: assembledHeader year time := by
  simp [assembledHeader, starredLines, runtimePackage]

/-- The text of the header is the assembled one behind a line feed. -/
theorem toList_headerText (stamp : Stamp) :
    (headerText stamp).toList = '\n' :: assembledHeader (toString stamp.year) stamp.text :=
  toList_assembledHeader (toString stamp.year) stamp.text

/-- Behind a star and a blank a line does not close the comment, if it has no other star. -/
theorem commentInside_starred {rest : List Char} (noStar : '*' ∉ rest) :
    Piece.CommentInside false ("  *".toList ++ ' ' :: rest) := by
  have star : Piece.CommentInside false "  *".toList :=
    Piece.commentInside_of_not_mem (.inr (by decide))
  have behind : Piece.CommentInside false rest := Piece.commentInside_of_not_mem (.inl noStar)
  exact (Piece.commentInside_append_cons (by decide) rest).mpr ⟨star, behind⟩

/-- The comment of a header is closed by its last line only. -/
theorem commentInside_starredLines {year time : String} (markedYear : Stamp.IsMarked year)
    (markedTime : Stamp.IsMarked time) :
    Piece.CommentInside true (List.intercalate ['\n'] (['*'] :: starredLines year time)) := by
  have spaced : ∀ {closed line next more},
      Piece.CommentInside closed (List.intercalate ['\n'] (line :: next :: more)) ↔
        Piece.CommentInside false line ∧
          Piece.CommentInside closed (List.intercalate ['\n'] (next :: more)) :=
    Piece.commentInside_intercalate (List.forall_mem_nil _) _ _ _
  have blank : ∀ character ∈ [' ', ' '], isBlank character = true := by simp [isBlank]
  unfold starredLines
  rw [spaced, spaced, spaced, spaced, spaced, List.intercalate_singleton]
  refine ⟨Piece.commentInside_of_not_mem (.inr (by decide)), commentInside_starred ?_,
    commentInside_starred ?_, Piece.commentInside_of_not_mem (.inr (by decide)),
    commentInside_starred (by decide),
    (Piece.commentInside_append_of_blank blank _).mpr .mark⟩
  · simpa using markedYear.apart.2
  · simpa using markedTime.apart.2

/-- A starred line is printed with one space before the star. -/
theorem commentLine_starredLine {rest after : List Char} (ends : EndsInked rest)
    (blank : ∀ character ∈ after, isBlank character = true) :
    Draft.commentLine ("  *".toList ++ ' ' :: (rest ++ after)) = ' ' :: '*' :: ' ' :: rest := by
  have starred : EndsInked ('*' :: ' ' :: rest) := ends.append ['*', ' ']
  have indents : ∀ character ∈ [' ', ' '], isBlank character = true := by simp [isBlank]
  exact Draft.commentLine_starred starred indents blank

/-- The lines of a header as they are printed. -/
theorem settledLines_header (year : String) {time : String} (ends : EndsInked time.toList) :
    List.intercalate ['\n'] (Draft.settledLines ("/**".toList :: starredLines year time)) =
      (headerOf year time).toList := by
  have package : EndsInked " jsonmodel-js".toList := ⟨" jsonmodel-j".toList, 's', rfl, by decide⟩
  have author : EndsInked "@author jsonmodel-gen".toList :=
    ⟨"@author jsonmodel-ge".toList, 'n', rfl, by decide⟩
  have space : ∀ character ∈ [' '], isBlank character = true := by simp [isBlank]
  have copyright := commentLine_starredLine
    (package.append ("Copyright ".toList ++ year.toList)) (List.forall_mem_nil _)
  have generated := commentLine_starredLine (ends.append "Auto-generated: ".toList) space
  have authored := commentLine_starredLine author (List.forall_mem_nil _)
  have bare : Draft.commentLine "  *".toList = " *".toList := rfl
  have last : Draft.commentLine "  */".toList = " */".toList := rfl
  have first : trim "/**".toList = "/**".toList := rfl
  rw [List.append_nil] at copyright authored
  unfold starredLines
  rw [Draft.settledLines, List.map_cons, List.map_cons, List.map_cons, List.map_cons, List.map_cons,
    List.map_nil, copyright, generated, authored, bare, last, first]
  simp [headerOf]

/-- A comment with the lines of a header is written line by line. -/
theorem writes_assembledHeader {year time : String} (markedYear : Stamp.IsMarked year)
    (markedTime : Stamp.IsMarked time) (ends : EndsInked time.toList) {place : Place}
    (fresh : ∀ spaceDue, place ≠ .inLine spaceDue) :
    Writes unit ⟨0, place⟩ (assembledHeader year time)
      (Spot.gap unit ⟨0, place⟩ ++ (headerOf year time).toList) ⟨0, .lineStart false⟩ := by
  have belongs := commentInside_starredLines markedYear markedTime
  have start : (⟨0, place⟩ : Spot).breakLine = ⟨0, place⟩ := by
    cases place with
    | inLine spaceDue => exact absurd rfl (fresh spaceDue)
    | _ => rfl
  have comment : assembledHeader year time =
      '/' :: '*' :: List.intercalate ['\n'] (['*'] :: starredLines year time) := by
    rw [← List.intercalate_cons_cons_left, ← List.intercalate_cons_cons_left]
    rfl
  have lines : (assembledHeader year time).splitOn '\n' =
      "/**".toList :: starredLines year time := by
    refine List.splitOn_intercalate '\n' ?_ (List.cons_ne_nil _ _)
    simpa [starredLines] using ⟨markedYear.apart.1, markedTime.apart.1⟩
  have written := Writes.blockComment unit belongs start
  rw [Draft.settledComment_of_closed belongs, ← comment, lines] at written
  rw [← settledLines_header year ends]
  exact written

/-- **Layout of the header.** The header is written line by line at the start of a line, and ends
it. -/
theorem writes_header (stamp : Stamp) {place : Place}
    (fresh : ∀ spaceDue, place ≠ .inLine spaceDue) :
    Writes unit ⟨0, place⟩ (assembledHeader (toString stamp.year) stamp.text)
      (Spot.gap unit ⟨0, place⟩ ++ (header stamp).toList) ⟨0, .lineStart false⟩ :=
  writes_assembledHeader (Stamp.isMarked_toString stamp.year) stamp.isMarked_text
    stamp.endsInked_text fresh

end Printed

end ModelScribe

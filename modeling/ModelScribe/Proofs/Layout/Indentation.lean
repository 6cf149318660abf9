import ModelScribe.Proofs.Layout.LineBreaks
import ModelScribe.Proofs.Layout.LineFeeds

/-! # The indentation of a layout

A line of a layout is indented by as many levels as braces are open before it, one
less if it begins with a closing brace (`ModelScribe.Layout.Indents`), where braces
are counted in the layout alone, by a reader who leaves strings and comments out.

No brace opens or closes between the line feed of a line and its first piece, so the
depth of the spot at which that piece is written is the count of the reader
(`ModelScribe.Layout.Stretch.depth_spot`).
-/

namespace ModelScribe

open Text

namespace Text

/-- The text in the middle is a line. -/
structure IsLine (before line after : List Char) : Prop where
  begins : ∀ last ∈ before.getLast?, last = '\n'
  inLine : '\n' ∉ line
  ends : EndsLine after

/-- A line is all that stands up to the next line feed. -/
theorem line_unique {line other after rest : List Char} (whole : line ++ after = other ++ rest)
    (inLine : '\n' ∉ line) (ends : EndsLine after) (inOther : '\n' ∉ other)
    (stops : EndsLine rest) : line = other ∧ after = rest := by
  have first := Piece.span_line inLine ends
  have second := Piece.span_line inOther stops
  rw [whole] at first
  exact ⟨first.1.symm.trans second.1, first.2.symm.trans second.2⟩

theorem exists_line (text : List Char) :
    ∃ line rest, text = line ++ rest ∧ '\n' ∉ line ∧ EndsLine rest := by
  refine ⟨text.takeWhile (· != '\n'), text.dropWhile (· != '\n'),
    List.takeWhile_append_dropWhile.symm, ?_, ?_⟩
  · intro feed
    simpa using List.mem_takeWhile_imp feed
  · intro next member
    have stopped := List.head?_dropWhile_not (· != '\n') text
    rw [Option.mem_def.mp member] at stopped
    simpa using stopped

theorem EndsLine.append {first second : List Char} (one : EndsLine first) (other : EndsLine second) :
    EndsLine (first ++ second) := by
  cases first with
  | nil => exact other
  | cons next first => exact one

/-- The first of joined lines ends before the next one. -/
theorem exists_intercalate_eq_append (indentation line : List Char) (more : List (List Char)) :
    ∃ rest, List.intercalate ('\n' :: indentation) (line :: more) = line ++ rest ∧
      EndsLine rest := by
  cases more with
  | nil => exact ⟨[], by simp, by simp [EndsLine]⟩
  | cons next more =>
      rw [List.intercalate_cons_cons, List.append_assoc]
      exact ⟨_, rfl, by simp [EndsLine]⟩

theorem IsLine.cases {before line after : List Char} (isLine : IsLine before line after) :
    before = [] ∨ ∃ start, before = start ++ ['\n'] := by
  rcases List.eq_nil_or_concat' before with rfl | ⟨start, last, rfl⟩
  · exact .inl rfl
  · obtain rfl := isLine.begins last (List.getLast?_concat ..)
    exact .inr ⟨start, rfl⟩

end Text

namespace Draft

/-- All laid-out lines of a comment but the first are set one by one. -/
theorem exists_commentLine_of_prefix {comment line next : List Char}
    {done more : List (List Char)} (lines : done ++ line :: next :: more <+: commentLines comment) :
    ∃ own, next = commentLine own := by
  obtain ⟨dropped, whole⟩ := lines
  unfold commentLines at whole
  cases cut : Text.lines comment with
  | nil => simp [cut] at whole
  | cons first others =>
      rw [cut] at whole
      have later : next ∈ others.map commentLine := by
        cases done with
        | nil =>
            rw [← (List.cons.inj whole).2]
            exact List.mem_cons_self ..
        | cons other done =>
            rw [← (List.cons.inj whole).2]
            simp
      obtain ⟨own, _, rfl⟩ := List.mem_map.mp later
      exact ⟨own, rfl⟩

end Draft

theorem Spot.depth_approach {spot : Spot} {piece : Piece} (other : piece ≠ .closeBrace) :
    (spot.approach piece).depth = spot.depth := by
  obtain ⟨depth, place⟩ := spot
  cases piece with
  | closeBrace => exact absurd rfl other
  | _ => cases place <;> rfl

/-- The number of levels of a line, by the braces before it and the one it begins with. -/
def Context.levels (context : Context) (line : List Char) : Nat :=
  context.depth - if (trimStart line).head? = some '}' then 1 else 0

namespace Layout

/-- How the lines of a text are indented, with such a level of indentation. -/
structure Indents (unit text : List Char) : Prop where
  /-- A line of code, or the first one of a comment. -/
  code : ∀ {before line after}, text = before ++ line ++ after → IsLine before line after →
    (Context.of before).region.IsCode → line ≠ [] →
      ∃ rest, line = (List.replicate ((Context.of before).levels line) unit).flatten ++ rest ∧
        BeginsInked rest
  /-- A line of a comment but its first. -/
  comment : ∀ {before line after}, text = before ++ line ++ after → IsLine before line after →
    (∃ star, (Context.of before).region = .blockComment star) →
      line = (List.replicate (Context.of before).depth unit).flatten ++
        ((if (trim line).head? = some '*' then [' '] else []) ++ trim line)

namespace Stretch

variable {unit : List Char} {pieces : List Piece} (stretch : Stretch unit pieces)
  (stand : Piece.AllStand pieces) (indents : IsIndentation unit)

include stand indents

/-- A piece is written as deep as the braces before it and its own closing brace say. -/
theorem depth_spot : stretch.spot.depth =
    stretch.reached.depth - if stretch.settled.text.head? = some '}' then 1 else 0 := by
  by_cases closes : stretch.settled.text.head? = some '}'
  · rw [if_pos closes]
    obtain ⟨right, inside⟩ := List.head?_eq_some_iff.mp closes
    have begins := stretch.head?_piece stand indents inside
    obtain ⟨behind, marked⟩ := (stretch.stands stand).marked begins rfl
    generalize shape : stretch.piece = piece at marked
    rw [spot, shape]
    cases marked with
    | closeBrace => rfl
  · rw [if_neg closes]
    refine Spot.depth_approach fun shape => closes ?_
    have settled : stretch.settled = .closeBrace := congrArg (Piece.settled _) shape
    rw [settled]
    rfl

/-- The line of a piece that is the first one on it. -/
theorem exists_indented {context : Context} (same : context.depth = stretch.reached.depth)
    {line after : List Char} (inLine : '\n' ∉ line) (ends : EndsLine after)
    (back : line ++ after =
      stretch.spot.indentation unit ++ (stretch.settled.text ++ stretch.after)) :
    ∃ rest, line = (List.replicate (context.levels line) unit).flatten ++ rest ∧
      BeginsInked rest := by
  have level : IsIndentation (stretch.spot.indentation unit) := Spot.forall_mem_indentation indents _
  obtain ⟨first, more, spelled, inked⟩ := stretch.beginsInked_settled stand indents
  obtain ⟨own, rest, whole, inOwn, stops⟩ := exists_line (stretch.settled.text ++ stretch.after)
  have begins : ∃ others, own = first :: others := by
    rw [spelled, List.cons_append] at whole
    rcases List.append_eq_cons_iff.mp whole.symm with ⟨rfl, behind⟩ | ⟨others, shape, _⟩
    · obtain rfl := stops first (by rw [behind]; rfl)
      exact absurd inked (by decide)
    · exact ⟨others, shape⟩
  obtain ⟨others, rfl⟩ := begins
  have inIndented : '\n' ∉ stretch.spot.indentation unit ++ first :: others := by
    rw [List.mem_append, not_or]
    exact ⟨fun feed => (level '\n' feed).2 rfl, inOwn⟩
  rw [whole, ← List.append_assoc] at back
  obtain ⟨rfl, _⟩ := line_unique back inLine ends inIndented stops
  have trimmed : trimStart (stretch.spot.indentation unit ++ first :: others) = first :: others := by
    rw [trimStart, List.dropWhile_append_of_pos level.blank]
    exact trimStart_of_beginsInked ⟨first, others, rfl, inked⟩
  have depth : context.levels (stretch.spot.indentation unit ++ first :: others) =
      stretch.spot.depth := by
    rw [Context.levels, trimmed, same, stretch.depth_spot stand indents, spelled]
    rfl
  exact ⟨first :: others, by rw [depth]; rfl, first, others, rfl, inked⟩

end Stretch

variable {unit : List Char} {pieces : List Piece} (stand : Piece.AllStand pieces)
  (indents : IsIndentation unit) {before line after : List Char}

include stand indents

/-- A line of code is indented once for each open brace. -/
theorem code_lay
    (cut : (lay unit .start pieces).flatMap Piece.text = before ++ line ++ after)
    (isLine : IsLine before line after) (code : (Context.of before).region.IsCode)
    (nonempty : line ≠ []) :
    ∃ rest, line = (List.replicate ((Context.of before).levels line) unit).flatten ++ rest ∧
      BeginsInked rest := by
  obtain ⟨slash, region⟩ := code
  rcases isLine.cases with rfl | ⟨start, rfl⟩
  · rw [List.nil_append] at cut
    have begins := beginsInked_lay stand indents
      (by rw [cut]; exact List.append_ne_nil_of_left_ne_nil nonempty _)
    rw [cut] at begins
    obtain ⟨first, others, rfl⟩ := List.exists_cons_of_ne_nil nonempty
    obtain ⟨other, more, spelled, inked⟩ := begins
    obtain rfl := (List.cons.inj spelled).1
    have level : (Context.of []).levels (first :: others) = 0 := Nat.zero_sub _
    exact ⟨first :: others, by rw [level]; rfl, first, others, rfl, inked⟩
  · rw [List.append_assoc, List.append_assoc, List.singleton_append] at cut
    obtain ⟨stretch, holds⟩ := exists_stretch cut
    cases holds.feeds stand indents with
    | string text shape feed inside =>
        obtain ⟨quote, escaped, string⟩ := inside
        exact Region.noConfusion (region.symm.trans string)
    | comment source shape done other next more lines front back inside =>
        exact Region.noConfusion (region.symm.trans (congrArg Context.region inside))
    | blankLine inked front back inside =>
        obtain ⟨first, others, rfl⟩ := List.exists_cons_of_ne_nil nonempty
        obtain rfl := (List.cons.inj back).1
        exact absurd (List.mem_cons_self ..) isLine.inLine
    | line inked front back inside =>
        exact stretch.exists_indented stand indents (congrArg Context.depth inside) isLine.inLine
          isLine.ends back

/-- A later line of a comment is indented with its code, a leading star one space more. -/
theorem comment_lay
    (cut : (lay unit .start pieces).flatMap Piece.text = before ++ line ++ after)
    (isLine : IsLine before line after)
    (comment : ∃ star, (Context.of before).region = .blockComment star) :
    line = (List.replicate (Context.of before).depth unit).flatten ++
      ((if (trim line).head? = some '*' then [' '] else []) ++ trim line) := by
  obtain ⟨star, region⟩ := comment
  rcases isLine.cases with rfl | ⟨start, rfl⟩
  · exact Region.noConfusion region
  · rw [List.append_assoc, List.append_assoc, List.singleton_append] at cut
    obtain ⟨stretch, holds⟩ := exists_stretch cut
    cases holds.feeds stand indents with
    | string text shape feed inside =>
        obtain ⟨quote, escaped, string⟩ := inside
        exact Region.noConfusion (region.symm.trans string)
    | comment source shape done other next more lines front back inside =>
        have level : IsIndentation (stretch.spot.indentation unit) :=
          Spot.forall_mem_indentation indents _
        have ends : EndsLine stretch.after := stretch.endsLine_after (by rw [shape]; rfl)
        obtain ⟨rest, joined, stops⟩ := exists_intercalate_eq_append
          (stretch.spot.indentation unit) next more
        have inLine : '\n' ∉ stretch.spot.indentation unit ++ next := by
          rw [List.mem_append, not_or]
          refine ⟨fun feed => (level '\n' feed).2 rfl, ?_⟩
          refine Draft.lineFeed_not_mem_of_mem_commentLines (lines.mem ?_)
          simp
        rw [joined, ← List.append_assoc, List.append_assoc _ rest] at back
        obtain ⟨rfl, _⟩ := line_unique back isLine.inLine isLine.ends inLine (stops.append ends)
        obtain ⟨own, rfl⟩ := Draft.exists_commentLine_of_prefix lines
        have trimmed : trim (stretch.spot.indentation unit ++ Draft.commentLine own) = trim own := by
          have framed := trim_append_append_of_blank (Draft.commentLine own) level.blank
            (List.forall_mem_nil _)
          rwa [List.append_nil, Draft.trim_commentLine] at framed
        have depth : stretch.spot.depth = stretch.reached.depth :=
          Spot.depth_approach (by rw [shape]; exact Piece.noConfusion)
        rw [trimmed, inside, ← depth, ← Draft.commentLine_eq_ite]
        rfl
    | blankLine inked front back inside =>
        exact Region.noConfusion (region.symm.trans (congrArg Context.region inside))
    | line inked front back inside =>
        exact Region.noConfusion (region.symm.trans (congrArg Context.region inside))

omit stand indents

/-- **Indentation.** What is laid out for pieces of a source is indented so. -/
theorem indents_lay (stand : Piece.AllStand pieces) (indents : IsIndentation unit) :
    Indents unit ((lay unit .start pieces).flatMap Piece.text) where
  code := code_lay stand indents
  comment := comment_lay stand indents

/-- The braces of a layout are those of its source. -/
theorem depth_format (options : LayoutOptions) (source : String) :
    (Context.of (format options source).toList).depth = (Context.of source.toList).depth := by
  have stand := Piece.allStand_split source.toList
  have laid := allStand_lay options.isIndentation_indentUnit.blank .start stand
  rw [← List.append_nil (Piece.split source.toList)] at stand
  rw [← List.append_nil (lay _ _ _)] at laid
  have first := (Context.read_pieces stand (.code 0 _)).2
  have second := (Context.read_pieces laid (.code 0 _)).2
  rw [deepen_lay, ← first, Piece.flatMap_text_split, ← toList_format] at second
  exact second

/-- **Indentation of layouts.** The lines of a layout are indented by the braces before them. So a
line outside all braces is not indented, and all braces are closed at the end if they are so in the
source. -/
theorem indents_format (options : LayoutOptions) (source : String) :
    Indents options.indentUnit (format options source).toList ∧
      (Context.of (format options source).toList).depth = (Context.of source.toList).depth ∧
      ∀ {before line after}, (format options source).toList = before ++ line ++ after →
        IsLine before line after → (Context.of before).region.IsCode → line ≠ [] →
          (Context.of before).levels line = 0 → BeginsInked line := by
  have indents : Indents options.indentUnit (format options source).toList := by
    rw [toList_format]
    exact indents_lay (Piece.allStand_split source.toList) options.isIndentation_indentUnit
  refine ⟨indents, depth_format options source, fun cut isLine code nonempty outside => ?_⟩
  obtain ⟨rest, whole, begins⟩ := indents.code cut isLine code nonempty
  rw [outside] at whole
  rwa [whole]

end Layout

end ModelScribe

import ModelScribe.Proofs.Layout.Stretch

/-! # The line feeds of a layout

A line feed of a layout stands in the gap of a stretch, where it ends the line before
or leaves a blank one, or in a block comment, where it parts two of its lines, or in a
string, where it has been in the source (`ModelScribe.Layout.Stretch.feeds`). What
follows is the indentation of the next line, except in a string.
-/

namespace ModelScribe

open Text

namespace Text

/-- Lines that are joined by line feeds are parted at each of these. -/
theorem intercalate_eq_append_lineFeed {indentation : List Char} (inLine : '\n' ∉ indentation)
    {lines : List (List Char)} (whole : ∀ line ∈ lines, '\n' ∉ line) {left right : List Char}
    (cut : List.intercalate ('\n' :: indentation) lines = left ++ '\n' :: right) :
    ∃ done line next more, lines = done ++ line :: next :: more ∧
      left = List.intercalate ('\n' :: indentation) (done ++ [line]) ∧
      right = indentation ++ List.intercalate ('\n' :: indentation) (next :: more) := by
  have none : ∀ {text start tail : List Char}, '\n' ∉ text → text ≠ start ++ '\n' :: tail := by
    rintro _ start tail absent rfl
    exact absent (List.mem_append_right _ (List.mem_cons_self ..))
  induction lines generalizing left with
  | nil => exact absurd cut (none List.not_mem_nil)
  | cons line lines ih =>
      have short := whole line (List.mem_cons_self ..)
      cases lines with
      | nil =>
          rw [List.intercalate_singleton] at cut
          exact absurd cut (none short)
      | cons next more =>
          rw [List.intercalate_cons_cons, List.append_assoc] at cut
          rcases append_eq_append_cons cut with ⟨_, within, _⟩ | ⟨left, rfl, behind⟩
          · exact absurd within (none short)
          · cases left with
            | nil =>
                refine ⟨[], line, next, more, rfl, ?_, (List.cons.inj behind).2.symm⟩
                simp
            | cons feed left =>
                rw [List.cons_append, List.cons_append, List.cons.injEq] at behind
                obtain ⟨rfl, behind⟩ := behind
                rcases append_eq_append_cons behind with ⟨_, within, _⟩ | ⟨left, rfl, later⟩
                · exact absurd within (none inLine)
                · obtain ⟨done, other, following, rest, shape, rfl, tail⟩ :=
                    ih (fun text member => whole text (List.mem_cons_of_mem _ member)) later
                  refine ⟨line :: done, other, following, rest, by rw [shape]; rfl, ?_, tail⟩
                  have more : done ++ [other] ≠ [] :=
                    List.append_ne_nil_of_right_ne_nil _ (List.cons_ne_nil _ _)
                  rw [List.cons_append, List.intercalate_cons_of_ne_nil more]
                  simp

end Text

namespace Draft

/-- The line feeds of a laid-out comment part its lines. -/
theorem settledComment_eq_append_lineFeed {indentation comment left right : List Char}
    (indents : IsIndentation indentation)
    (cut : settledComment indentation comment = left ++ '\n' :: right) :
    ∃ done line next more, done ++ line :: next :: more <+: commentLines comment ∧
      left = List.intercalate ('\n' :: indentation) (done ++ [line]) ∧
      right = indentation ++ List.intercalate ('\n' :: indentation) (next :: more) := by
  have shorter := List.rdropWhile_prefix
    (fun line : List Char => indentation.isEmpty && line.isEmpty) (l := commentLines comment)
  have inLine : '\n' ∉ indentation := fun feed => (indents '\n' feed).2 rfl
  obtain ⟨done, line, next, more, kept, front, back⟩ := intercalate_eq_append_lineFeed inLine
    (fun line member => lineFeed_not_mem_of_mem_commentLines (shorter.mem member)) cut
  rw [kept] at shorter
  exact ⟨done, line, next, more, shorter, front, back⟩

end Draft

namespace Spot

variable {unit : List Char}

theorem Continues.depth_eq_zero {laid : List Char} {spot : Spot} (continues : Continues laid spot)
    (blank : spot.place = .lineStart true) : spot.depth = 0 := by
  cases continues with
  | blankLine inked => rfl
  | _ => cases blank

theorem place_approach {spot : Spot} {piece : Piece}
    (blank : (spot.approach piece).place = .lineStart true) : spot.place = .lineStart true := by
  obtain ⟨depth, place⟩ := spot
  cases place <;> cases piece <;> first | exact blank | cases blank

/-- A gap with a line feed begins with one, and the next line is indented. -/
theorem gap_eq_append_lineFeed (indents : IsIndentation unit) {spot : Spot}
    {left right : List Char} (cut : spot.gap unit = left ++ '\n' :: right) :
    (left = [] ∧ right = spot.indentation unit) ∨
      spot.place = .lineStart true ∧
        (left = [] ∧ right = '\n' :: spot.indentation unit ∨
          left = ['\n'] ∧ right = spot.indentation unit) := by
  have none : ∀ front, spot.indentation unit ≠ front ++ '\n' :: right := by
    intro front same
    have feed : '\n' ∈ spot.indentation unit := by
      rw [same]
      exact List.mem_append_right _ (List.mem_cons_self ..)
    exact (forall_mem_indentation indents spot '\n' feed).2 rfl
  obtain ⟨depth, place⟩ := spot
  cases place with
  | textStart => exact absurd cut (none left)
  | lineStart blankLine =>
      cases blankLine with
      | false =>
          rcases List.append_eq_cons_iff.mp cut.symm with ⟨rfl, same⟩ | ⟨front, _, same⟩
          · exact .inl ⟨rfl, (List.cons.inj same).2⟩
          · exact absurd same (none front)
      | true =>
          refine .inr ⟨rfl, ?_⟩
          rcases List.append_eq_cons_iff.mp cut.symm with ⟨rfl, same⟩ | ⟨front, rfl, same⟩
          · exact .inl ⟨rfl, (List.cons.inj same).2⟩
          · rcases List.append_eq_cons_iff.mp same.symm with ⟨rfl, same⟩ | ⟨front, _, same⟩
            · exact .inr ⟨rfl, (List.cons.inj same).2.symm⟩
            · exact absurd same (none front)
  | inLine spaceDue =>
      have feed : '\n' ∈ gap unit ⟨depth, .inLine spaceDue⟩ := by
        rw [cut]
        exact List.mem_append_right _ (List.mem_cons_self ..)
      cases spaceDue with
      | false => exact absurd feed List.not_mem_nil
      | true => exact absurd (List.mem_singleton.mp feed) (by decide)

end Spot

namespace Layout

variable {unit : List Char} {pieces : List Piece}

namespace Stretch

variable (stretch : Stretch unit pieces)

/-- What a line feed is that stands in a stretch. -/
inductive Feeds (start tail : List Char) : Prop
  /-- It belongs to a string. -/
  | string (text : List Char) (shape : stretch.piece = .literal text) (feed : '\n' ∈ text)
      (inside : ∃ quote escaped, (Context.of (start ++ ['\n'])).region = .literal quote escaped)
  /-- It parts two lines of a comment. -/
  | comment (source : List Char) (shape : stretch.piece = .blockComment source)
      (done : List (List Char)) (line next : List Char) (more : List (List Char))
      (lines : done ++ line :: next :: more <+: Draft.commentLines source)
      (front : start = stretch.before ++ stretch.gap ++
        List.intercalate ('\n' :: stretch.spot.indentation unit) (done ++ [line]))
      (back : tail = stretch.spot.indentation unit ++
        List.intercalate ('\n' :: stretch.spot.indentation unit) (next :: more) ++ stretch.after)
      (inside : Context.of (start ++ ['\n']) = ⟨.blockComment false, stretch.reached.depth⟩)
  /-- It leaves a blank line. -/
  | blankLine (inked : EndsInked stretch.before) (front : start = stretch.before)
      (back : tail = '\n' :: (stretch.settled.text ++ stretch.after))
      (inside : Context.of (start ++ ['\n']) = .code 0)
  /-- It leads to the line of the piece, maybe across a blank line. -/
  | line (inked : EndsInked stretch.before) (front : start = stretch.before ∨
        start = stretch.before ++ ['\n'] ∧ Context.of start = .code 0)
      (back : tail = stretch.spot.indentation unit ++ (stretch.settled.text ++ stretch.after))
      (inside : Context.of (start ++ ['\n']) = .code stretch.reached.depth)

variable {stretch : Stretch unit pieces} {start tail : List Char}

/-- **Line feeds.** What a line feed of a layout is. -/
theorem Holds.feeds (stand : Piece.AllStand pieces) (indents : IsIndentation unit)
    (holds : stretch.Holds start '\n' tail) : stretch.Feeds start tail := by
  cases holds with
  | gap left right inside front back =>
      have gapped : stretch.spot.gap unit ≠ [] := by
        have whole : stretch.spot.gap unit = left ++ '\n' :: right := inside
        rw [whole]
        exact List.append_ne_nil_of_right_ne_nil _ (List.cons_ne_nil _ _)
      have inked := (stretch.continues stand indents).endsInked_of_gap gapped
      have whole : stretch.gap = left ++ ['\n'] ++ right := by
        rw [inside, List.append_assoc]
        rfl
      have code : Context.of (start ++ ['\n']) = .code stretch.reached.depth := by
        rw [front, List.append_assoc]
        exact stretch.context_in_gap stand indents whole
          (List.append_ne_nil_of_right_ne_nil _ (List.cons_ne_nil _ _))
      rcases Spot.gap_eq_append_lineFeed indents inside with
        ⟨rfl, rfl⟩ | ⟨place, parts⟩
      · exact .line inked (.inl (by rw [front, List.append_nil])) back code
      · have outside : stretch.reached.depth = 0 :=
          (stretch.continues_reached stand indents).depth_eq_zero (Spot.place_approach place)
        rcases parts with ⟨rfl, rfl⟩ | ⟨rfl, rfl⟩
        · have unindented : stretch.spot.indentation unit = [] := by
            have level := (stretch.continues stand indents).depth_eq_zero place
            rw [Spot.indentation, level]
            rfl
          rw [outside] at code
          rw [unindented] at back
          exact .blankLine inked (by rw [front, List.append_nil]) back code
        · have behind := stretch.context_in_gap stand indents inside (List.cons_ne_nil _ _)
          rw [outside, ← front] at behind
          exact .line inked (.inr ⟨front, behind⟩) back code
  | piece left right inside front back =>
      have nonempty : left ≠ [] := by
        rintro rfl
        obtain ⟨first, more, spelled, inked⟩ := stretch.beginsInked_settled stand indents
        obtain rfl := (List.cons.inj (spelled.symm.trans inside)).1
        exact absurd inked (by decide)
      have sees := stretch.sees stand indents inside nonempty
      have stands := stretch.stands_settled stand indents
      have feed : '\n' ∈ stretch.settled.text := by
        rw [inside]
        exact List.mem_append_right _ (List.mem_cons_self ..)
      have onward : Context.of (start ++ ['\n']) = (Context.of start).next '\n' :=
        Context.of_append ..
      rw [← front] at sees
      cases shape : stretch.piece with
      | literal text =>
          have settled : stretch.settled = .literal (trimEnd text) :=
            congrArg (Piece.settled _) shape
          rw [settled] at sees feed
          obtain ⟨quote, escaped, quoted, string⟩ := sees
          refine .string text shape (mem_of_mem_trimEnd feed) ⟨quote, false, ?_⟩
          rw [onward, string]
          exact Region.next_literal_lineFeed quoted escaped
      | blockComment source =>
          have settled : stretch.settled =
              .blockComment (Draft.settledComment (stretch.spot.indentation unit) source) :=
            congrArg (Piece.settled _) shape
          rw [settled] at sees inside stands
          have level : IsIndentation (stretch.spot.indentation unit) :=
            Spot.forall_mem_indentation indents _
          obtain ⟨done, line, next, more, lines, begun, ended⟩ :=
            Draft.settledComment_eq_append_lineFeed level inside
          rw [begun] at front
          rw [ended] at back
          refine .comment source shape done line next more lines front back ?_
          rw [onward]
          obtain ⟨rfl, _⟩ | ⟨star, comment⟩ := sees
          · obtain ⟨comment, closed, spelled, _⟩ := stands
            rw [Piece.text, spelled] at inside
            exact absurd (List.cons.inj (List.cons.inj inside).2).1 (by decide)
          · rw [comment]
            exact Context.next_comment (fun _ => by decide) _
      | lineComment text =>
          have settled : stretch.settled = .lineComment (trimEnd text) :=
            congrArg (Piece.settled _) shape
          rw [settled] at stands feed
          obtain ⟨comment, spelled, inLine, _⟩ := stands
          rw [Piece.text, spelled] at feed
          exact absurd (by simpa using feed) inLine
      | blanks text => exact absurd shape (stretch.notBlank text)
      | emptyBraces gap =>
          have settled : stretch.settled = .emptyBraces [] := congrArg (Piece.settled _) shape
          rw [settled] at feed
          exact absurd feed (by decide)
      | _ =>
          have settled : stretch.settled = _ := congrArg (Piece.settled _) shape
          rw [settled] at sees
          exact False.elim sees

end Stretch

end Layout

end ModelScribe

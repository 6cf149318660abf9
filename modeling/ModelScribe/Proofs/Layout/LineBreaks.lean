import ModelScribe.Proofs.Layout.Stretch
import ModelScribe.Proofs.Layout.TokenStream

/-! # The line breaks of a layout

Where a layout breaks its lines, as a reader sees it who knows nothing of the source
but what each character stands in (`ModelScribe.Layout.BreaksLines`). That holds of
every layout, whatever the order of the pieces and however the braces are nested or
left open (`ModelScribe.Layout.breaksLines_format`).

A mark of the code is the first character of the piece it stands in, but for the
brace that closes an empty pair (`ModelScribe.Layout.exists_stretch_of_code`). What
stands before it is then the gap of its stretch, and what stands behind it is the next
stretch.
-/

namespace ModelScribe

open Text

namespace Text

/-- The last line of a text, as far as the text goes. -/
def openLine (text : List Char) : List Char :=
  text.rtakeWhile (· != '\n')

/-- A number of levels of indentation. -/
def IsLevels (unit text : List Char) : Prop :=
  ∃ depth, text = (List.replicate depth unit).flatten

/-- The open line is what stands behind the last line feed. -/
theorem openLine_append_cons (before : List Char) {line : List Char} (inLine : '\n' ∉ line) :
    openLine (before ++ '\n' :: line) = line := by
  have kept : ∀ character ∈ line.reverse, (character != '\n') = true := by
    intro character member
    rw [bne_iff_ne]
    rintro rfl
    exact inLine (List.mem_reverse.mp member)
  rw [openLine, List.rtakeWhile, List.reverse_append, List.reverse_cons, List.append_assoc,
    List.takeWhile_append_of_pos kept]
  simp

end Text

namespace Piece

variable {piece : Piece} {rest : List Char}

/-- The pieces that begin with a mark, with what they are laid out as behind it. -/
inductive Marked : Char → Piece → List Char → Prop
  | openBrace : Marked '{' openBrace []
  | emptyBraces (gap : List Char) : Marked '{' (emptyBraces gap) ['}']
  | closeBrace : Marked '}' closeBrace []
  | comma : Marked ',' comma []
  | semicolon : Marked ';' semicolon []
  | parenthesis : Marked ')' (closer ')') []
  | bracket : Marked ']' (closer ']') []

/-- A piece keeps its mark, and what belongs to it, once it is laid out. -/
theorem Marked.text_settled {mark : Char} {behind : List Char} (marked : Marked mark piece behind)
    (indentation : List Char) : (piece.settled indentation).text = mark :: behind := by
  cases marked <;> rfl

/-- A piece that begins with a mark is the piece of that mark. -/
theorem Stands.marked (stands : piece.Stands rest) {mark : Char}
    (begins : piece.text.head? = some mark) (marks : Token.isMark mark = true) :
    ∃ behind, Marked mark piece behind := by
  obtain ⟨unquoted, inked, noPlain, noSlash, _⟩ := Token.apart_of_isMark marks
  cases piece with
  | literal text =>
      obtain ⟨quote, inside, closed, quoted, rfl, _⟩ := stands
      obtain rfl : quote = mark := Option.some.inj begins
      exact absurd (quoted.symm.trans unquoted) Bool.noConfusion
  | blockComment text =>
      obtain ⟨inside, closed, rfl, _⟩ := stands
      exact absurd (Option.some.inj begins).symm noSlash
  | lineComment text =>
      obtain ⟨inside, rfl, _⟩ := stands
      exact absurd (Option.some.inj begins).symm noSlash
  | blanks text =>
      have blank := stands.2.1 mark (List.mem_of_mem_head? begins)
      exact absurd (blank.symm.trans inked) Bool.noConfusion
  | plain character =>
      obtain rfl : character = mark := Option.some.inj begins
      exact absurd (stands.1.symm.trans noPlain) Bool.noConfusion
  | closer character =>
      obtain rfl : character = mark := Option.some.inj begins
      simp only [Stands, isCloser, Bool.or_eq_true, beq_iff_eq] at stands
      rcases stands with rfl | rfl
      · exact ⟨[], .parenthesis⟩
      · exact ⟨[], .bracket⟩
  | openBrace =>
      cases begins
      exact ⟨[], .openBrace⟩
  | emptyBraces gap =>
      cases begins
      exact ⟨['}'], .emptyBraces gap⟩
  | closeBrace =>
      cases begins
      exact ⟨[], .closeBrace⟩
  | comma =>
      cases begins
      exact ⟨[], .comma⟩
  | semicolon =>
      cases begins
      exact ⟨[], .semicolon⟩

/-- A piece that begins with a slash is the slash, a line comment or a block comment. -/
theorem Stands.slashed (stands : piece.Stands rest) (begins : piece.text.head? = some '/') :
    piece = plain '/' ∨ (∃ text, piece = lineComment text) ∨ ∃ text, piece = blockComment text := by
  cases piece with
  | literal text =>
      obtain ⟨quote, inside, closed, quoted, rfl, _⟩ := stands
      obtain rfl : quote = '/' := Option.some.inj begins
      exact absurd quoted (by decide)
  | blockComment text => exact .inr (.inr ⟨text, rfl⟩)
  | lineComment text => exact .inr (.inl ⟨text, rfl⟩)
  | blanks text => exact absurd (stands.2.1 '/' (List.mem_of_mem_head? begins)) (by decide)
  | closer character =>
      obtain rfl : character = '/' := Option.some.inj begins
      have closes : isCloser '/' = true := stands
      exact absurd closes (by decide)
  | plain character =>
      obtain rfl : character = '/' := Option.some.inj begins
      exact .inl rfl
  | _ => exact absurd (Option.some.inj begins) (by decide)

end Piece

namespace Spot

theorem hug_hug (spot : Spot) : spot.hug.hug = spot.hug := by
  obtain ⟨depth, place⟩ := spot
  cases place <;> rfl

theorem breakLine_breakLine (spot : Spot) : spot.breakLine.breakLine = spot.breakLine := by
  obtain ⟨depth, place⟩ := spot
  cases place <;> rfl

/-- A closing brace is approached at the start of a line. -/
theorem breakLine_approach_closeBrace (spot : Spot) :
    (spot.approach .closeBrace).breakLine = spot.approach .closeBrace := by
  obtain ⟨depth, place⟩ := spot
  cases place <;> rfl

end Spot

namespace Spot.Continues

variable {laid unit : List Char} {spot : Spot}

/-- At a new line only its indentation stands before a piece. -/
theorem openLine_gap (continues : Continues laid spot) (indents : IsIndentation unit)
    (fresh : spot.breakLine = spot) :
    openLine (laid ++ spot.gap unit) = spot.indentation unit := by
  have inLine : '\n' ∉ spot.indentation unit :=
    fun feed => (forall_mem_indentation indents spot '\n' feed).2 rfl
  cases continues with
  | textStart => rfl
  | lineStart inked depth => exact openLine_append_cons laid inLine
  | blankLine inked =>
      have feeds : laid ++ gap unit ⟨0, .lineStart true⟩ =
          laid ++ ['\n'] ++ '\n' :: indentation unit ⟨0, .lineStart true⟩ := by
        rw [List.append_assoc]
        rfl
      rw [feeds, openLine_append_cons _ inLine]
  | inLine inked depth spaceDue => exact absurd (congrArg Spot.place fresh) Place.noConfusion

/-- A gap within a line is nothing or one space. -/
theorem gap_of_inLine (continues : Continues laid spot) (begun : laid ≠ [])
    (inLine : '\n' ∉ spot.gap unit) : spot.gap unit = [] ∨ spot.gap unit = [' '] := by
  cases continues with
  | textStart => exact absurd rfl begun
  | lineStart inked depth => exact absurd (List.mem_cons_self ..) inLine
  | blankLine inked => exact absurd (List.mem_cons_self ..) inLine
  | inLine inked depth spaceDue =>
      cases spaceDue with
      | false => exact .inl rfl
      | true => exact .inr rfl

/-- Closing punctuation follows ink, or the indentation of its line. -/
theorem hug_gap (continues : Continues laid spot) (indents : IsIndentation unit)
    (hugs : spot.hug = spot) :
    EndsInked (laid ++ spot.gap unit) ∨ openLine (laid ++ spot.gap unit) = spot.indentation unit := by
  by_cases fresh : spot.breakLine = spot
  · exact .inr (continues.openLine_gap indents fresh)
  · left
    cases continues with
    | inLine inked depth spaceDue =>
        obtain rfl : false = spaceDue := Place.inLine.inj (congrArg Spot.place hugs)
        have hugging : gap unit ⟨depth, .inLine false⟩ = [] := rfl
        rwa [hugging, List.append_nil]
    | _ => exact absurd rfl fresh

end Spot.Continues

namespace Layout

variable {unit : List Char} {pieces : List Piece} (stand : Piece.AllStand pieces)
  (indents : IsIndentation unit)

namespace Stretch

variable (stretch : Stretch unit pieces)

include stand indents

/-- Behind the first character of a piece there is no code but a mark of a comment, and the brace
that closes an empty pair. -/
theorem code_inside {left right : List Char} {character : Char}
    (inside : stretch.settled.text = left ++ character :: right) (nonempty : left ≠ [])
    (code : (Context.of (stretch.before ++ stretch.gap ++ left)).region.IsCode) :
    (Context.of (stretch.before ++ stretch.gap ++ left)).region = .code true ∧
        (character = '/' ∨ character = '*') ∨
      left = ['{'] ∧ character = '}' := by
  have sees := stretch.sees stand indents inside nonempty
  have stands := stretch.stands_settled stand indents
  obtain ⟨slash, region⟩ := code
  cases shape : stretch.settled with
  | literal text =>
      rw [shape] at sees
      obtain ⟨quote, escaped, _, same⟩ := sees
      exact Region.noConfusion (region.symm.trans (congrArg Context.region same))
  | blockComment text =>
      rw [shape] at sees stands inside
      obtain ⟨rfl, same⟩ | ⟨star, same⟩ := sees
      · obtain ⟨comment, closed, rfl, _⟩ := stands
        exact .inl ⟨congrArg Context.region same,
          .inr (List.cons.inj (List.cons.inj inside).2).1.symm⟩
      · exact Region.noConfusion (region.symm.trans (congrArg Context.region same))
  | lineComment text =>
      rw [shape] at sees stands inside
      obtain ⟨rfl, same⟩ | same := sees
      · obtain ⟨comment, rfl, _⟩ := stands
        exact .inl ⟨congrArg Context.region same,
          .inl (List.cons.inj (List.cons.inj inside).2).1.symm⟩
      · exact Region.noConfusion (region.symm.trans (congrArg Context.region same))
  | blanks text => exact absurd shape (Piece.settled_ne_blanks stretch.notBlank _ _)
  | emptyBraces gap =>
      right
      obtain rfl := Piece.eq_nil_of_settled shape
      rw [shape] at inside
      obtain ⟨first, inner, rfl⟩ := List.exists_cons_of_ne_nil nonempty
      have whole : ['{', '}'] = first :: (inner ++ character :: right) := inside
      rw [List.cons.injEq] at whole
      obtain ⟨rfl, whole⟩ := whole
      cases inner with
      | nil => exact ⟨rfl, (List.cons.inj whole).1.symm⟩
      | cons second inner => simp at whole
  | _ =>
      rw [shape] at sees
      exact False.elim sees

/-- A closing brace and a block comment come first on their lines. -/
theorem isLevels_openLine
    (own : stretch.piece = .closeBrace ∨ ∃ text, stretch.piece = .blockComment text) :
    IsLevels unit (openLine (stretch.before ++ stretch.gap)) := by
  have fresh : stretch.spot.breakLine = stretch.spot := by
    rcases own with shape | ⟨text, shape⟩ <;> rw [Stretch.spot, shape]
    · exact stretch.reached.breakLine_approach_closeBrace
    · exact stretch.reached.breakLine_breakLine
  exact ⟨_, (stretch.continues stand indents).openLine_gap indents fresh⟩

/-- A piece begins with the same character before and after it is laid out. -/
theorem head?_piece {character : Char} {right : List Char}
    (inside : stretch.settled.text = character :: right) :
    stretch.piece.text.head? = some character := by
  have level : IsIndentation (stretch.spot.indentation unit) :=
    Spot.forall_mem_indentation indents _
  rw [← Piece.head?_text_settled (stretch.stands stand) level.blank]
  exact congrArg List.head? inside

end Stretch

include stand indents

/-- **Code in stretches.** A character of the code that is not blank begins the piece of its
stretch, unless it belongs to the mark of a comment or closes an empty pair of braces. -/
theorem exists_stretch_of_code {start tail : List Char} {character : Char}
    (cut : (lay unit .start pieces).flatMap Piece.text = start ++ character :: tail)
    (inked : isBlank character = false) (code : (Context.of start).region.IsCode)
    (unmarked : (Context.of start).region = .code false ∨ character ≠ '/' ∧ character ≠ '*') :
    ∃ stretch : Stretch unit pieces,
      (∃ right, stretch.settled.text = character :: right ∧
        start = stretch.before ++ stretch.gap ∧ tail = right ++ stretch.after) ∨
      character = '}' ∧ start = stretch.before ++ stretch.gap ++ ['{'] := by
  obtain ⟨stretch, holds⟩ := exists_stretch cut
  refine ⟨stretch, ?_⟩
  cases holds with
  | gap left right inside front back =>
      have blank := stretch.isBlank_of_gap indents inside
      exact absurd (inked.symm.trans blank) Bool.false_ne_true
  | piece left right inside front back =>
      by_cases first : left = []
      · subst first
        exact .inl ⟨right, inside, by rw [front, List.append_nil], back⟩
      · rw [front] at code unmarked
        rcases stretch.code_inside stand indents inside first code with
          ⟨slash, mark⟩ | ⟨rfl, closes⟩
        · rcases unmarked with other | ⟨noSlash, noStar⟩
          · exact Region.noConfusion (slash.symm.trans other) fun same => Bool.noConfusion same
          · exact absurd mark (not_or.mpr ⟨noSlash, noStar⟩)
        · exact .inr ⟨closes, front⟩

/-- A mark of the code begins the piece of its stretch, unless it closes an empty pair of braces. -/
theorem exists_stretch_of_mark {start tail : List Char} {mark : Char}
    (cut : (lay unit .start pieces).flatMap Piece.text = start ++ mark :: tail)
    (marks : Token.isMark mark = true) (code : (Context.of start).region.IsCode)
    (unpaired : mark = '}' → start.getLast? ≠ some '{') :
    ∃ (stretch : Stretch unit pieces) (behind : List Char),
      Piece.Marked mark stretch.piece behind ∧ start = stretch.before ++ stretch.gap ∧
        tail = behind ++ stretch.after := by
  obtain ⟨_, inked, _, noComment⟩ := Token.apart_of_isMark marks
  obtain ⟨stretch, ⟨right, inside, front, back⟩ | ⟨closes, paired⟩⟩ :=
    exists_stretch_of_code stand indents cut inked code (.inr noComment)
  · have begins := stretch.head?_piece stand indents inside
    obtain ⟨behind, marked⟩ := (stretch.stands stand).marked begins marks
    obtain rfl : behind = right :=
      (List.cons.inj ((marked.text_settled _).symm.trans inside)).2
    exact ⟨stretch, behind, marked, front, back⟩
  · exact absurd (by rw [paired, List.getLast?_concat]) (unpaired closes)

omit stand indents

/-- How a text breaks its lines, with such a level of indentation. -/
structure BreaksLines (unit text : List Char) : Prop where
  openBrace : ∀ {before after}, text = before ++ '{' :: after →
    (Context.of before).region.IsCode → after.head? = some '}' ∨ EndsLine after
  closeBrace : ∀ {before after}, text = before ++ '}' :: after →
    (Context.of before).region.IsCode →
      before.getLast? = some '{' ∨ IsLevels unit (openLine before)
  semicolon : ∀ {before after}, text = before ++ ';' :: after →
    (Context.of before).region.IsCode → EndsLine after
  /-- A comma ends its line between braces only. -/
  comma : ∀ {before after}, text = before ++ ',' :: after →
    (Context.of before).region.IsCode → 0 < (Context.of before).depth → EndsLine after
  lineComment : ∀ {before after}, text = before ++ '/' :: '/' :: after →
    (Context.of before).region = .code false →
      ∃ comment rest, after = comment ++ rest ∧ '\n' ∉ comment ∧
        EndsInked ('/' :: '/' :: comment) ∧ EndsLine rest
  blockComment : ∀ {before after}, text = before ++ '/' :: '*' :: after →
    (Context.of before).region = .code false → IsLevels unit (openLine before)
  /-- The slash that closes a comment ends its line. -/
  commentEnd : ∀ {before after}, text = before ++ '/' :: after →
    (Context.of before).region = .blockComment true → EndsLine after
  /-- Closing punctuation stands behind ink, unless it is the first on its line. -/
  hugging : ∀ {mark before after}, mark ∈ [',', ';', ')', ']'] → text = before ++ mark :: after →
    (Context.of before).region.IsCode → EndsInked before ∨ IsLevels unit (openLine before)
  /-- Blanks within a line of the code are one space. -/
  spacing : ∀ {before gap after}, text = before ++ gap ++ after →
    (Context.of before).region.IsCode → EndsInked before → BeginsInked after →
      (∀ character ∈ gap, isBlank character = true) → '\n' ∉ gap → gap = [] ∨ gap = [' ']

section

variable {start tail : List Char}

include stand indents

/-- Behind an opening brace a line ends, but before its closing brace. -/
theorem openBrace_lay
    (cut : (lay unit .start pieces).flatMap Piece.text = start ++ '{' :: tail)
    (code : (Context.of start).region.IsCode) : tail.head? = some '}' ∨ EndsLine tail := by
  obtain ⟨stretch, behind, marked, rfl, rfl⟩ :=
    exists_stretch_of_mark stand indents cut rfl code (absurd · (by decide))
  generalize shape : stretch.piece = piece at marked
  cases marked with
  | openBrace => exact .inr (stretch.endsLine_after (by rw [shape]; rfl))
  | emptyBraces gap => exact .inl rfl

/-- A closing brace stands first on its line or behind its opening brace. -/
theorem closeBrace_lay
    (cut : (lay unit .start pieces).flatMap Piece.text = start ++ '}' :: tail)
    (code : (Context.of start).region.IsCode) :
    start.getLast? = some '{' ∨ IsLevels unit (openLine start) := by
  by_cases paired : start.getLast? = some '{'
  · exact .inl paired
  · obtain ⟨stretch, behind, marked, rfl, _⟩ :=
      exists_stretch_of_mark stand indents cut rfl code fun _ => paired
    generalize shape : stretch.piece = piece at marked
    cases marked with
    | closeBrace => exact .inr (stretch.isLevels_openLine stand indents (.inl shape))

/-- Behind a semicolon a line ends. -/
theorem semicolon_lay
    (cut : (lay unit .start pieces).flatMap Piece.text = start ++ ';' :: tail)
    (code : (Context.of start).region.IsCode) : EndsLine tail := by
  obtain ⟨stretch, behind, marked, rfl, rfl⟩ :=
    exists_stretch_of_mark stand indents cut rfl code (absurd · (by decide))
  generalize shape : stretch.piece = piece at marked
  cases marked with
  | semicolon => exact stretch.endsLine_after (by rw [shape]; rfl)

/-- Behind a comma inside of braces a line ends. -/
theorem comma_lay
    (cut : (lay unit .start pieces).flatMap Piece.text = start ++ ',' :: tail)
    (code : (Context.of start).region.IsCode) (deep : 0 < (Context.of start).depth) :
    EndsLine tail := by
  obtain ⟨stretch, behind, marked, rfl, rfl⟩ :=
    exists_stretch_of_mark stand indents cut rfl code (absurd · (by decide))
  rw [(stretch.context_gap stand indents).2] at deep
  generalize shape : stretch.piece = piece at marked
  cases marked with
  | comma =>
      have ends : (stretch.reached.after stretch.piece).place = .lineStart false := by
        rw [shape]
        exact if_pos deep
      exact stretch.endsLine_after ends

/-- Closing punctuation hugs what stands before it. -/
theorem hugging_lay {mark : Char} (hugs : mark ∈ [',', ';', ')', ']'])
    (cut : (lay unit .start pieces).flatMap Piece.text = start ++ mark :: tail)
    (code : (Context.of start).region.IsCode) :
    EndsInked start ∨ IsLevels unit (openLine start) := by
  have marks : Token.isMark mark = true := by
    simp only [List.mem_cons, List.not_mem_nil, or_false] at hugs
    exact Token.isMark_iff.mpr (.inr (.inr hugs))
  obtain ⟨stretch, behind, marked, rfl, rfl⟩ := exists_stretch_of_mark stand indents cut marks code
    (by rintro rfl; exact absurd hugs (by decide))
  have hugged : stretch.spot.hug = stretch.spot := by
    generalize shape : stretch.piece = piece at marked
    rw [Stretch.spot, shape]
    cases marked with
    | openBrace => exact absurd hugs (by decide)
    | emptyBraces gap => exact absurd hugs (by decide)
    | closeBrace => exact absurd hugs (by decide)
    | _ => exact stretch.reached.hug_hug
  exact ((stretch.continues stand indents).hug_gap indents hugged).imp_right fun level => ⟨_, level⟩

/-- A slash of the code that has a slash or a star behind it begins a comment. -/
theorem exists_stretch_of_comment {next : Char} (marks : next = '/' ∨ next = '*')
    (cut : (lay unit .start pieces).flatMap Piece.text = start ++ '/' :: next :: tail)
    (code : (Context.of start).region = .code false) :
    ∃ stretch : Stretch unit pieces, start = stretch.before ++ stretch.gap ∧
      '/' :: next :: tail = stretch.settled.text ++ stretch.after ∧
      ((next = '/' ∧ ∃ text, stretch.piece = .lineComment text) ∨
        next = '*' ∧ ∃ text, stretch.piece = .blockComment text) := by
  obtain ⟨stretch, ⟨right, inside, front, back⟩ | ⟨closes, _⟩⟩ :=
    exists_stretch_of_code stand indents cut rfl ⟨false, code⟩ (.inl code)
  · have whole : '/' :: next :: tail = stretch.settled.text ++ stretch.after := by
      rw [inside, back]
      rfl
    have begins := stretch.head?_piece stand indents inside
    have stands := stretch.stands_settled stand indents
    refine ⟨stretch, front, whole, ?_⟩
    rcases (stretch.stands stand).slashed begins with shape | ⟨text, shape⟩ | ⟨text, shape⟩
    · -- a slash of its own has neither of the two behind it
      have settled : stretch.settled = .plain '/' := congrArg (Piece.settled _) shape
      rw [settled] at stands whole
      have behind : next :: tail = stretch.after := (List.cons.inj whole).2
      have apart := stands.2 rfl next (by rw [← behind]; rfl)
      exact absurd marks (not_or.mpr apart)
    · left
      have settled : stretch.settled = .lineComment (trimEnd text) :=
        congrArg (Piece.settled _) shape
      rw [settled] at stands whole
      obtain ⟨comment, spelled, _⟩ := stands
      rw [Piece.text, spelled] at whole
      exact ⟨(List.cons.inj (List.cons.inj whole).2).1, text, shape⟩
    · right
      have settled : stretch.settled =
          .blockComment (Draft.settledComment (stretch.spot.indentation unit) text) :=
        congrArg (Piece.settled _) shape
      rw [settled] at stands whole
      obtain ⟨comment, closed, spelled, _⟩ := stands
      rw [Piece.text, spelled] at whole
      exact ⟨(List.cons.inj (List.cons.inj whole).2).1, text, shape⟩
  · exact absurd closes (by decide)

/-- A line comment takes the rest of its line. -/
theorem lineComment_lay
    (cut : (lay unit .start pieces).flatMap Piece.text = start ++ '/' :: '/' :: tail)
    (code : (Context.of start).region = .code false) :
    ∃ comment rest, tail = comment ++ rest ∧ '\n' ∉ comment ∧
      EndsInked ('/' :: '/' :: comment) ∧ EndsLine rest := by
  obtain ⟨stretch, rfl, whole, ⟨_, text, shape⟩ | ⟨odd, _⟩⟩ :=
    exists_stretch_of_comment stand indents (.inl rfl) cut code
  · have stands := stretch.stands_settled stand indents
    have inked := (stretch.stands stand).settlesInked_of_noComment stretch.notBlank
      (fun text same => Piece.noConfusion (shape.symm.trans same))
      (stretch.spot.indentation unit) (Spot.forall_mem_indentation indents _)
    have settled : stretch.settled = .lineComment (trimEnd text) :=
      congrArg (Piece.settled _) shape
    rw [settled] at stands whole
    rw [shape] at inked
    obtain ⟨comment, spelled, inLine, ends⟩ := stands
    have inked : EndsInked (trimEnd text) := inked
    rw [Piece.text, spelled] at whole
    rw [spelled] at inked
    exact ⟨comment, stretch.after, (List.cons.inj (List.cons.inj whole).2).2, inLine, inked, ends⟩
  · exact absurd odd (by decide)

/-- A block comment begins a line. -/
theorem blockComment_lay
    (cut : (lay unit .start pieces).flatMap Piece.text = start ++ '/' :: '*' :: tail)
    (code : (Context.of start).region = .code false) : IsLevels unit (openLine start) := by
  obtain ⟨stretch, rfl, _, ⟨odd, _⟩ | ⟨_, shape⟩⟩ :=
    exists_stretch_of_comment stand indents (.inr rfl) cut code
  · exact absurd odd (by decide)
  · exact stretch.isLevels_openLine stand indents (.inr shape)

/-- Behind a block comment a line ends. -/
theorem commentEnd_lay
    (cut : (lay unit .start pieces).flatMap Piece.text = start ++ '/' :: tail)
    (closing : (Context.of start).region = .blockComment true) : EndsLine tail := by
  obtain ⟨stretch, holds⟩ := exists_stretch cut
  cases holds with
  | gap left right inside front back =>
      exact absurd (stretch.isBlank_of_gap indents inside) (by decide)
  | piece left right inside front back =>
      rw [front, Context.of_append] at closing
      obtain ⟨⟨text, settled⟩, rfl⟩ := (stretch.stands_settled stand indents).eq_blockComment_of_slash
        (stretch.context_gap stand indents).1 inside closing
      rw [back]
      obtain ⟨source, shape⟩ := Piece.eq_blockComment_of_settled settled
      exact stretch.endsLine_after (by rw [shape]; rfl)

/-- Between ink and ink on one line there is a space or nothing. -/
theorem spacing_lay {gap : List Char}
    (cut : (lay unit .start pieces).flatMap Piece.text = start ++ gap ++ tail)
    (code : (Context.of start).region.IsCode) (inked : EndsInked start) (begins : BeginsInked tail)
    (blank : ∀ character ∈ gap, isBlank character = true) (inLine : '\n' ∉ gap) :
    gap = [] ∨ gap = [' '] := by
  cases gap with
  | nil => exact .inl rfl
  | cons first gap =>
      have isBlank := blank first (List.mem_cons_self ..)
      rw [List.append_assoc, List.cons_append] at cut
      obtain ⟨stretch, holds⟩ := exists_stretch cut
      cases holds with
      | gap left right inside front back =>
          obtain rfl : left = [] := by
            rcases List.eq_nil_or_concat' left with rfl | ⟨inner, last, rfl⟩
            · rfl
            · rw [List.append_assoc] at inside
              have isBlank := stretch.isBlank_of_gap indents inside
              rw [front, ← List.append_assoc] at inked
              have ends := inked.isBlank_getLast? last (List.getLast?_concat ..)
              exact absurd (ends.symm.trans isBlank) Bool.false_ne_true
          rw [List.append_nil] at front
          rw [front] at inked
          -- the gap of the stretch goes on as far as the blanks do
          have within : ∀ character ∈ right, Text.isBlank character = true := by
            intro character member
            refine Spot.isBlank_of_mem_gap indents.blank stretch.spot character ?_
            have whole : stretch.spot.gap unit = first :: right := inside
            rw [whole]
            exact List.mem_cons_of_mem _ member
          have settles := (stretch.beginsInked_settled stand indents).append stretch.after
          have short := (Piece.span_blanks (fun other member =>
            blank other (List.mem_cons_of_mem _ member)) begins.isBlank_head?).1
          rw [back, (Piece.span_blanks within settles.isBlank_head?).1] at short
          have whole : stretch.gap = first :: gap := by
            rw [inside, short]
            rfl
          rw [← whole] at inLine ⊢
          exact (stretch.continues stand indents).gap_of_inLine inked.ne_nil inLine
      | piece left right inside front back =>
          by_cases start : left = []
          · subst start
            obtain ⟨own, more, spelled, inked⟩ := stretch.beginsInked_settled stand indents
            obtain rfl := (List.cons.inj (spelled.symm.trans inside)).1
            exact absurd (inked.symm.trans isBlank) Bool.false_ne_true
          · rw [front] at code
            rcases stretch.code_inside stand indents inside start code with
              ⟨_, rfl | rfl⟩ | ⟨_, rfl⟩ <;> exact absurd isBlank (by decide)

end

/-- **Line breaks.** What is laid out for pieces of a source breaks its lines so. -/
theorem breaksLines_lay (stand : Piece.AllStand pieces) (indents : IsIndentation unit) :
    BreaksLines unit ((lay unit .start pieces).flatMap Piece.text) where
  openBrace := openBrace_lay stand indents
  closeBrace := closeBrace_lay stand indents
  semicolon := semicolon_lay stand indents
  comma := comma_lay stand indents
  lineComment := lineComment_lay stand indents
  blockComment := blockComment_lay stand indents
  commentEnd := commentEnd_lay stand indents
  hugging := hugging_lay stand indents
  spacing := spacing_lay stand indents

/-- The text of a line comment, without blanks at its end. -/
def lineComment? : Token → Option (List Char)
  | .lineComment text => some (trimEnd text)
  | _ => none

/-- Tokens that are kept have the line comments of the tokens they come from. -/
theorem filterMap_lineComment {source laid : List Token}
    (keeps : List.Forall₂ Token.Keeps source laid) :
    laid.filterMap lineComment? = source.filterMap lineComment? := by
  induction keeps with
  | nil => rfl
  | cons keep _ ih =>
      cases keep with
      | lineComment same => simp only [List.filterMap_cons, lineComment?, same, ih]
      | _ => simpa only [List.filterMap_cons, lineComment?] using ih

/-- **Line breaks of layouts.** A layout breaks its lines so, and its line comments are those of its
source, so that nothing has come to stand behind one on its line. -/
theorem breaksLines_format (options : LayoutOptions) (source : String) :
    BreaksLines options.indentUnit (format options source).toList ∧
      (Token.lex (format options source)).filterMap lineComment? =
        (Token.lex source).filterMap lineComment? := by
  have stand := Piece.allStand_split source.toList
  have indents := options.isIndentation_indentUnit
  constructor
  · rw [toList_format]
    exact breaksLines_lay stand indents
  · have keeps : List.Forall₂ Token.Keeps
        (Token.lexFrom (.code []) ((Piece.split source.toList).flatMap Piece.text))
        (Token.lexFrom (.code [])
          ((lay options.indentUnit .start (Piece.split source.toList)).flatMap Piece.text)) :=
      keeps_lexFrom indents stand (absurd rfl)
    rw [Piece.flatMap_text_split, ← toList_format] at keeps
    exact filterMap_lineComment keeps

end Layout

end ModelScribe

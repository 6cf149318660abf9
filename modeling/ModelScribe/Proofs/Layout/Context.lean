import ModelScribe.Proofs.Layout.Spot

/-! # What a character stands in

A reader of its own goes through a text one character at a time and keeps what the
next character stands in, which is code, a string or a comment, and how many braces
of the code are open (`ModelScribe.Context.of`).

Between two pieces of a text the reader goes on as in code
(`ModelScribe.Context.read_pieces`), and behind the quote of a string or the marks
of a comment it does not see code (`ModelScribe.Piece.Stands.sees`).
-/

namespace ModelScribe

open Text

/-- What the next character of a text stands in. -/
inductive Region
  /-- Code; the last character is a slash that would begin a comment, or not. -/
  | code (slash : Bool)
  /-- A string; the last character is a backslash that takes the next one with it, or not. -/
  | literal (quote : Char) (escaped : Bool)
  | lineComment
  /-- A comment between marks; the last character is a star that would end it, or not. -/
  | blockComment (star : Bool)
  deriving DecidableEq

namespace Region

/-- What the character after the next one stands in. -/
def next : Region → Char → Region
  | code slash, character =>
      if slash && character == '/' then lineComment
      else if slash && character == '*' then blockComment false
      else if Piece.isQuote character then literal character false
      else code (character == '/')
  | literal quote true, _ => literal quote false
  | literal quote false, character =>
      if character = '\\' then literal quote true
      else if character = quote then code false
      else literal quote false
  | lineComment, character => if character = '\n' then code false else lineComment
  | blockComment star, character =>
      if star && character == '/' then code false else blockComment (character == '*')

/-- A string goes on across a line feed. -/
theorem next_literal_lineFeed {quote : Char} (quoted : Piece.isQuote quote = true)
    (escaped : Bool) : (literal quote escaped).next '\n' = literal quote false := by
  have other : '\n' ≠ quote := by
    rintro rfl
    exact absurd quoted (by decide)
  cases escaped with
  | false => simp [next, other]
  | true => rfl

/-- The next character is no part of a string or a comment, but may begin one. -/
def IsCode (region : Region) : Prop :=
  ∃ slash, region = code slash

end Region

/-- Where the next character of a text stands. -/
structure Context where
  region : Region
  /-- The number of open braces of the code; a closing brace without an opening one is left out. -/
  depth : Nat
  deriving DecidableEq

namespace Context

/-- Code with so many open braces. -/
def code (depth : Nat) : Context := ⟨.code false, depth⟩

/-- Where the character after the next one stands. -/
def next (context : Context) (character : Char) : Context where
  region := context.region.next character
  depth :=
    match context.region with
    | .code _ =>
        if character = '{' then context.depth + 1
        else if character = '}' then context.depth - 1
        else context.depth
    | _ => context.depth

/-- Where the character behind a text stands. -/
def read (context : Context) (text : List Char) : Context :=
  text.foldl next context

/-- Where the character behind the beginning of a text stands. -/
def of (before : List Char) : Context :=
  (code 0).read before

@[simp]
theorem read_nil (context : Context) : context.read [] = context := rfl

@[simp]
theorem read_cons (context : Context) (character : Char) (rest : List Char) :
    context.read (character :: rest) = (context.next character).read rest := rfl

theorem read_append (context : Context) (first second : List Char) :
    context.read (first ++ second) = (context.read first).read second :=
  List.foldl_append ..

theorem of_append (first second : List Char) : of (first ++ second) = (of first).read second :=
  read_append _ first second

/-- A character of the code that is neither quote nor brace nor slash does not change anything. -/
theorem next_code {character : Char} (unquoted : Piece.isQuote character = false)
    (noBrace : character ≠ '{' ∧ character ≠ '}') (depth : Nat) :
    (code depth).next character = ⟨.code (character == '/'), depth⟩ := by
  simp [code, next, Region.next, unquoted, noBrace.1, noBrace.2]

/-- A quote in code opens a string. -/
theorem next_code_quote {quote : Char} (quoted : Piece.isQuote quote = true) (depth : Nat) :
    (code depth).next quote = ⟨.literal quote false, depth⟩ := by
  have noBrace : quote ≠ '{' ∧ quote ≠ '}' := by
    constructor <;> rintro rfl <;> exact absurd quoted (by decide)
  simp [code, next, Region.next, quoted, noBrace.1, noBrace.2]

variable {before after : List Char} {closed : Bool}

/-- A string is not left before its closing quote. -/
theorem read_literal_prefix {quote : Char}
    (belongs : Piece.LiteralInside quote closed (before ++ after))
    (onward : after ≠ [] ∨ closed = false) (depth : Nat) :
    ∃ escaped, (⟨.literal quote false, depth⟩ : Context).read before =
      ⟨.literal quote escaped, depth⟩ := by
  generalize whole : before ++ after = inside at belongs
  induction belongs generalizing before with
  | nil =>
      rw [(List.append_eq_nil_iff.mp whole).1]
      exact ⟨false, rfl⟩
  | backslash =>
      rcases List.append_eq_cons_iff.mp whole with ⟨rfl, _⟩ | ⟨rest, rfl, behind⟩
      · exact ⟨false, rfl⟩
      · rw [(List.append_eq_nil_iff.mp behind.symm).1]
        exact ⟨true, by simp [next, Region.next]⟩
  | quote =>
      rcases List.append_eq_cons_iff.mp whole with ⟨rfl, _⟩ | ⟨rest, rfl, behind⟩
      · exact ⟨false, rfl⟩
      · have last := (List.append_eq_nil_iff.mp behind.symm).2
        exact absurd last (onward.resolve_right (by decide))
  | escape escaped belongs ih =>
      rcases List.append_eq_cons_iff.mp whole with ⟨rfl, _⟩ | ⟨rest, rfl, behind⟩
      · exact ⟨false, rfl⟩
      · rcases List.append_eq_cons_iff.mp behind.symm with ⟨rfl, _⟩ | ⟨more, rfl, ends⟩
        · exact ⟨true, by simp [next, Region.next]⟩
        · obtain ⟨escaped', inside⟩ := ih onward ends.symm
          exact ⟨escaped', by simpa [next, Region.next] using inside⟩
  | character other unescaped belongs ih =>
      rcases List.append_eq_cons_iff.mp whole with ⟨rfl, _⟩ | ⟨rest, rfl, behind⟩
      · exact ⟨false, rfl⟩
      · obtain ⟨escaped, inside⟩ := ih onward behind.symm
        exact ⟨escaped, by simpa [next, Region.next, other, unescaped] using inside⟩

/-- Behind its closing quote a string has been left. -/
theorem read_literal_closed {quote : Char} {inside : List Char}
    (quoted : Piece.isQuote quote = true) (belongs : Piece.LiteralInside quote true inside)
    (depth : Nat) : (⟨.literal quote false, depth⟩ : Context).read inside = code depth := by
  have proper : quote ≠ '\\' := by
    rintro rfl
    exact absurd quoted (by decide)
  generalize closes : true = closed at belongs
  induction belongs with
  | nil => exact absurd closes (by decide)
  | backslash => exact absurd closes (by decide)
  | quote => simp [next, Region.next, proper, code]
  | escape escaped belongs ih => simpa [next, Region.next] using ih closes
  | character other unescaped belongs ih =>
      simpa [next, Region.next, other, unescaped] using ih closes

/-- A block comment goes on at a character that does not close it. -/
theorem next_comment {star : Bool} {character : Char} (apart : star = true → character ≠ '/')
    (depth : Nat) :
    (⟨.blockComment star, depth⟩ : Context).next character =
      ⟨.blockComment (character == '*'), depth⟩ := by
  have stays : (star && character == '/') = false := by
    rw [Bool.and_eq_false_iff, beq_eq_false_iff_ne]
    cases star with
    | false => exact .inl rfl
    | true => exact .inr (apart rfl)
  simp [next, Region.next, stays]

/-- A star in a comment that does not begin the closing mark has no slash behind it. -/
theorem slash_not_next {character : Char} {inside : List Char}
    (unmarked : ¬ Piece.BeginsMarked (character :: inside)) :
    (character == '*') = true → inside.head? ≠ some '/' := by
  intro starred slash
  obtain ⟨more, rfl⟩ := List.head?_eq_some_iff.mp slash
  rw [beq_iff_eq.mp starred] at unmarked
  exact unmarked ⟨more, rfl⟩

/-- A comment is not left before its closing mark. -/
theorem read_comment_prefix (belongs : Piece.CommentInside closed (before ++ after))
    (onward : after ≠ [] ∨ closed = false) {star : Bool}
    (apart : star = true → (before ++ after).head? ≠ some '/') (depth : Nat) :
    ∃ star', (⟨.blockComment star, depth⟩ : Context).read before =
      ⟨.blockComment star', depth⟩ := by
  generalize whole : before ++ after = inside at belongs apart
  induction belongs generalizing before star with
  | nil =>
      rw [(List.append_eq_nil_iff.mp whole).1]
      exact ⟨star, rfl⟩
  | mark =>
      rcases List.append_eq_cons_iff.mp whole with ⟨rfl, _⟩ | ⟨rest, rfl, behind⟩
      · exact ⟨star, rfl⟩
      · rcases List.append_eq_cons_iff.mp behind.symm with ⟨rfl, _⟩ | ⟨more, rfl, ends⟩
        · exact ⟨true, by simp [next, Region.next]⟩
        · have last := (List.append_eq_nil_iff.mp ends.symm).2
          exact absurd last (onward.resolve_right (by decide))
  | character unmarked belongs ih =>
      rcases List.append_eq_cons_iff.mp whole with ⟨rfl, _⟩ | ⟨rest, rfl, behind⟩
      · exact ⟨star, rfl⟩
      · have stays := next_comment (fun starred slash => apart starred (congrArg some slash)) depth
        obtain ⟨star', inside⟩ := ih onward behind.symm (slash_not_next unmarked)
        exact ⟨star', by rwa [read_cons, stays]⟩

/-- Behind its closing mark a comment has been left. -/
theorem read_comment_closed {inside : List Char} (belongs : Piece.CommentInside true inside)
    {star : Bool} (apart : star = true → inside.head? ≠ some '/') (depth : Nat) :
    (⟨.blockComment star, depth⟩ : Context).read inside = code depth := by
  generalize closes : true = closed at belongs
  induction belongs generalizing star with
  | nil => exact absurd closes (by decide)
  | mark => simp [next, Region.next, code]
  | character unmarked belongs ih =>
      have stays := next_comment (fun starred slash => apart starred (congrArg some slash)) depth
      rw [read_cons, stays]
      exact ih (slash_not_next unmarked) closes

/-- A comment is left with the mark that closes it, and what is read as one closes it. -/
theorem after_eq_nil_of_comment_slash {star : Bool}
    (belongs : Piece.CommentInside closed (before ++ '/' :: after))
    (apart : star = true → (before ++ '/' :: after).head? ≠ some '/') {depth : Nat}
    (starred : ((⟨.blockComment star, depth⟩ : Context).read before).region =
      .blockComment true) : after = [] := by
  by_contra more
  have inside : before ++ '/' :: after = before ++ ['/'] ++ after := by simp
  rw [inside] at belongs apart
  obtain ⟨star', stays⟩ := read_comment_prefix belongs (.inl more) apart depth
  rw [read_append, read_cons, read_nil, next, starred] at stays
  exact absurd (congrArg Context.region stays) (by simp [Region.next])

/-- A line comment goes on to the end of its line. -/
theorem read_lineComment {inside : List Char} (inLine : '\n' ∉ inside) (depth : Nat) :
    (⟨.lineComment, depth⟩ : Context).read inside = ⟨.lineComment, depth⟩ := by
  induction inside with
  | nil => rfl
  | cons character inside ih =>
      rw [List.mem_cons, not_or] at inLine
      have stays : (⟨.lineComment, depth⟩ : Context).next character = ⟨.lineComment, depth⟩ := by
        simp [next, Region.next, Ne.symm inLine.1]
      rw [read_cons, stays, ih inLine.2]

/-- A blank in code changes nothing. -/
theorem next_code_blank {blank : Char} (isBlank : isBlank blank = true) (depth : Nat) :
    (code depth).next blank = code depth := by
  obtain ⟨unquoted, noSlash⟩ := Piece.apart_of_isBlank isBlank
  have noBrace : blank ≠ '{' ∧ blank ≠ '}' := by
    constructor <;> rintro rfl <;> exact absurd isBlank (by decide)
  rw [next_code unquoted noBrace, beq_eq_false_iff_ne.mpr noSlash]
  rfl

/-- Blanks in code change nothing. -/
theorem read_blanks {gap : List Char} (blank : ∀ character ∈ gap, isBlank character = true)
    (depth : Nat) : (code depth).read gap = code depth := by
  induction gap with
  | nil => rfl
  | cons character gap ih =>
      rw [read_cons, next_code_blank (blank character (List.mem_cons_self ..)),
        ih fun other member => blank other (List.mem_cons_of_mem _ member)]

/-- What follows is read as code: between two pieces, and at the end of the text. -/
inductive AtBorder : Context → List Char → Prop
  | code (depth : Nat) (rest : List Char) : AtBorder (.code depth) rest
  | slash (depth : Nat) {rest : List Char}
      (apart : ∀ next ∈ rest.head?, next ≠ '/' ∧ next ≠ '*') : AtBorder ⟨.code true, depth⟩ rest
  | lineComment (depth : Nat) {rest : List Char} (ends : ∀ next ∈ rest.head?, next = '\n') :
      AtBorder ⟨.lineComment, depth⟩ rest
  | last (context : Context) : AtBorder context []

namespace AtBorder

variable {context : Context} {character : Char} {rest : List Char}

/-- At a border the next character is read as in code. -/
theorem next_eq (border : context.AtBorder (character :: rest)) :
    context.next character = (Context.code context.depth).next character := by
  cases border with
  | code depth => rfl
  | slash depth apart =>
      obtain ⟨noSlash, noStar⟩ := apart character rfl
      simp [Context.next, Region.next, Context.code, noSlash, noStar]
  | lineComment depth ends =>
      obtain rfl := ends character rfl
      simp [Context.next, Region.next, Context.code, Piece.isQuote]

/-- At a border a text is read as in code. -/
theorem read_eq {text : List Char} (border : context.AtBorder (text ++ rest))
    (nonempty : text ≠ []) : context.read text = (Context.code context.depth).read text := by
  obtain ⟨character, more, rfl⟩ := List.exists_cons_of_ne_nil nonempty
  rw [List.cons_append] at border
  rw [read_cons, read_cons, border.next_eq]

end AtBorder

end Context

namespace Piece

open Context

/-- The number of open braces behind a piece. -/
def deepen : Piece → Nat → Nat
  | openBrace, depth => depth + 1
  | closeBrace, depth => depth - 1
  | _, depth => depth

/-- A plain character is neither a quote nor a brace. -/
theorem apart_of_isPlain {character : Char} (plain : isPlain character = true) :
    isQuote character = false ∧ character ≠ '{' ∧ character ≠ '}' := by
  simp only [isPlain, Bool.not_eq_true', Bool.or_eq_false_iff, List.contains_eq_mem,
    List.mem_cons, List.not_mem_nil, or_false, decide_eq_false_iff_not, not_or] at plain
  exact ⟨plain.1.1.1, plain.2.1, plain.2.2.1⟩

theorem read_slash_star (depth : Nat) (inside : List Char) :
    (Context.code depth).read ('/' :: '*' :: inside) =
      (⟨.blockComment false, depth⟩ : Context).read inside := rfl

theorem read_slash_slash (depth : Nat) (inside : List Char) :
    (Context.code depth).read ('/' :: '/' :: inside) =
      (⟨.lineComment, depth⟩ : Context).read inside := rfl

/-- A piece that stands in a text has some text. -/
theorem Stands.text_ne_nil {piece : Piece} {rest : List Char} (stands : piece.Stands rest) :
    piece.text ≠ [] := by
  cases piece with
  | literal text =>
      obtain ⟨quote, inside, closed, _, rfl, _⟩ := stands
      exact List.cons_ne_nil _ _
  | blockComment text =>
      obtain ⟨inside, closed, rfl, _⟩ := stands
      exact List.cons_ne_nil _ _
  | lineComment text =>
      obtain ⟨inside, rfl, _⟩ := stands
      exact List.cons_ne_nil _ _
  | blanks text => exact stands.1
  | _ => exact List.cons_ne_nil _ _

/-- **Reading a piece.** Behind a piece the reader goes on as in code. -/
theorem Stands.read {piece : Piece} {rest : List Char} (stands : piece.Stands rest)
    {context : Context} (border : context.AtBorder (piece.text ++ rest)) :
    (context.read piece.text).AtBorder rest ∧
      (context.read piece.text).depth = piece.deepen context.depth := by
  rw [border.read_eq stands.text_ne_nil]
  generalize context.depth = depth
  cases piece with
  | literal text =>
      obtain ⟨quote, inside, closed, quoted, rfl, belongs, last⟩ := stands
      simp only [text, read_cons, next_code_quote quoted]
      cases closed with
      | true =>
          rw [read_literal_closed quoted belongs]
          exact ⟨.code depth rest, rfl⟩
      | false =>
          have whole : LiteralInside quote false (inside ++ []) := by rwa [List.append_nil]
          obtain ⟨escaped, inString⟩ := read_literal_prefix whole (.inr rfl) depth
          rw [inString, last rfl]
          exact ⟨.last _, rfl⟩
  | blockComment text =>
      obtain ⟨inside, closed, rfl, belongs, last⟩ := stands
      have apart : false = true → inside.head? ≠ some '/' := fun marks => absurd marks (by decide)
      simp only [text, read_slash_star]
      cases closed with
      | true =>
          rw [read_comment_closed belongs apart]
          exact ⟨.code depth rest, rfl⟩
      | false =>
          rw [← List.append_nil inside] at belongs apart
          obtain ⟨star, inComment⟩ := read_comment_prefix belongs (.inr rfl) apart depth
          rw [inComment, last rfl]
          exact ⟨.last _, rfl⟩
  | lineComment text =>
      obtain ⟨inside, rfl, inLine, ends⟩ := stands
      simp only [text, read_slash_slash, read_lineComment inLine]
      exact ⟨.lineComment depth ends, rfl⟩
  | blanks text =>
      simp only [Piece.text, read_blanks stands.2.1]
      exact ⟨.code depth rest, rfl⟩
  | openBrace => exact ⟨.code (depth + 1) rest, rfl⟩
  | emptyBraces gap =>
      have opened : (Context.code depth).next '{' = Context.code (depth + 1) := rfl
      have closed : (Context.code (depth + 1)).read ['}'] = Context.code depth := rfl
      have whole : (Context.code depth).read ('{' :: gap ++ ['}']) = Context.code depth := by
        rw [List.cons_append, read_cons, opened, read_append, read_blanks stands, closed]
      simp only [text, whole]
      exact ⟨.code depth rest, rfl⟩
  | closeBrace => exact ⟨.code (depth - 1) rest, rfl⟩
  | comma => exact ⟨.code depth rest, rfl⟩
  | semicolon => exact ⟨.code depth rest, rfl⟩
  | closer character =>
      simp only [Stands, isCloser, Bool.or_eq_true, beq_iff_eq] at stands
      rcases stands with rfl | rfl <;> exact ⟨.code depth rest, rfl⟩
  | plain character =>
      obtain ⟨unquoted, noBrace⟩ := apart_of_isPlain stands.1
      simp only [text, read_cons, read_nil, next_code unquoted noBrace]
      cases slash : character == '/' with
      | true => exact ⟨.slash depth (stands.2 (beq_iff_eq.mp slash)), rfl⟩
      | false => exact ⟨.code depth rest, rfl⟩

/-- Where the characters of a piece stand that follow so many of it. -/
def Sees (piece : Piece) (depth : Nat) (before : List Char) (context : Context) : Prop :=
  match piece with
  | literal _ => ∃ quote escaped, isQuote quote = true ∧ context = ⟨.literal quote escaped, depth⟩
  | blockComment _ =>
      before = ['/'] ∧ context = ⟨.code true, depth⟩ ∨ ∃ star, context = ⟨.blockComment star, depth⟩
  | lineComment _ =>
      before = ['/'] ∧ context = ⟨.code true, depth⟩ ∨ context = ⟨.lineComment, depth⟩
  | blanks _ => context = .code depth
  | emptyBraces _ => context = .code (depth + 1)
  | _ => False

/-- **Reading within a piece.** Behind the quote of a string and the marks of a comment the reader
does not see code before they end. -/
theorem Stands.sees {piece : Piece} {rest : List Char} (stands : piece.Stands rest)
    {context : Context} (border : context.AtBorder (piece.text ++ rest))
    {before after : List Char} {character : Char}
    (cut : piece.text = before ++ character :: after) (inside : before ≠ []) :
    piece.Sees context.depth before (context.read before) := by
  have reads : context.read before = (Context.code context.depth).read before := by
    rw [cut, List.append_assoc] at border
    exact border.read_eq inside
  rw [reads]
  generalize context.depth = depth
  obtain ⟨first, inner, rfl⟩ := List.exists_cons_of_ne_nil inside
  cases piece with
  | literal text =>
      obtain ⟨quote, inside, closed, quoted, rfl, belongs, last⟩ := stands
      rw [Piece.text, List.cons_append, List.cons.injEq] at cut
      obtain ⟨rfl, rfl⟩ := cut
      obtain ⟨escaped, inString⟩ := read_literal_prefix belongs (.inl (List.cons_ne_nil _ _)) depth
      rw [read_cons, next_code_quote quoted, inString]
      exact ⟨quote, escaped, quoted, rfl⟩
  | blockComment text =>
      obtain ⟨inside, closed, rfl, belongs, last⟩ := stands
      rw [Piece.text, List.cons_append, List.cons.injEq] at cut
      obtain ⟨rfl, cut⟩ := cut
      cases inner with
      | nil => exact .inl ⟨rfl, rfl⟩
      | cons second inner =>
          rw [List.cons_append, List.cons.injEq] at cut
          obtain ⟨rfl, rfl⟩ := cut
          have apart : false = true → (inner ++ character :: after).head? ≠ some '/' :=
            fun marks => absurd marks (by decide)
          obtain ⟨star, inComment⟩ :=
            read_comment_prefix belongs (.inl (List.cons_ne_nil _ _)) apart depth
          rw [read_slash_star, inComment]
          exact .inr ⟨star, rfl⟩
  | lineComment text =>
      obtain ⟨inside, rfl, inLine, ends⟩ := stands
      rw [Piece.text, List.cons_append, List.cons.injEq] at cut
      obtain ⟨rfl, cut⟩ := cut
      cases inner with
      | nil => exact .inl ⟨rfl, rfl⟩
      | cons second inner =>
          rw [List.cons_append, List.cons.injEq] at cut
          obtain ⟨rfl, rfl⟩ := cut
          have short : '\n' ∉ inner := fun member => inLine (List.mem_append_left _ member)
          rw [read_slash_slash, read_lineComment short]
          exact .inr rfl
  | blanks text =>
      have blank : ∀ other ∈ first :: inner, isBlank other = true := by
        intro other member
        refine stands.2.1 other ?_
        have whole : text = first :: inner ++ character :: after := cut
        rw [whole]
        exact List.mem_append_left _ member
      exact read_blanks blank depth
  | emptyBraces gap =>
      have whole : '{' :: (gap ++ ['}']) = first :: (inner ++ character :: after) := cut
      rw [List.cons.injEq] at whole
      obtain ⟨rfl, whole⟩ := whole
      have shorter : inner <+: gap := by
        have front := congrArg List.dropLast whole
        rw [List.dropLast_concat, List.dropLast_append_of_ne_nil (List.cons_ne_nil _ _)] at front
        exact ⟨_, front.symm⟩
      have opened : (Context.code depth).next '{' = Context.code (depth + 1) := rfl
      rw [read_cons, opened, read_blanks fun other member => stands other (shorter.mem member)]
      rfl
  | _ => simp [Piece.text] at cut

/-- What closes a comment in the eyes of the reader is the end of a comment. -/
theorem Stands.eq_blockComment_of_slash {piece : Piece} {rest : List Char}
    (stands : piece.Stands rest) {context : Context}
    (border : context.AtBorder (piece.text ++ rest)) {before after : List Char}
    (cut : piece.text = before ++ '/' :: after)
    (closing : (context.read before).region = .blockComment true) :
    (∃ text, piece = blockComment text) ∧ after = [] := by
  have inside : before ≠ [] := by
    rintro rfl
    rw [cut] at border
    generalize shape : [] ++ '/' :: after ++ rest = ahead at border
    cases border with
    | last => exact absurd shape (List.cons_ne_nil _ _)
    | _ => exact Region.noConfusion closing
  have sees := stands.sees border cut inside
  cases piece with
  | blockComment text =>
      refine ⟨⟨text, rfl⟩, ?_⟩
      rw [cut, List.append_assoc] at border
      rw [border.read_eq inside] at closing
      obtain ⟨comment, closed, rfl, belongs, last⟩ := stands
      obtain ⟨first, inner, rfl⟩ := List.exists_cons_of_ne_nil inside
      rw [Piece.text, List.cons_append, List.cons.injEq] at cut
      obtain ⟨rfl, cut⟩ := cut
      cases inner with
      | nil => exact absurd (List.cons.inj cut).1 (by decide)
      | cons second inner =>
          rw [List.cons_append, List.cons.injEq] at cut
          obtain ⟨rfl, rfl⟩ := cut
          rw [read_slash_star] at closing
          exact after_eq_nil_of_comment_slash belongs (fun marks => Bool.noConfusion marks) closing
  | literal text =>
      obtain ⟨quote, escaped, _, same⟩ := sees
      exact Region.noConfusion (closing.symm.trans (congrArg Context.region same))
  | lineComment text =>
      obtain ⟨_, same⟩ | same := sees <;>
        exact Region.noConfusion (closing.symm.trans (congrArg Context.region same))
  | blanks text => exact Region.noConfusion (closing.symm.trans (congrArg Context.region sees))
  | emptyBraces gap => exact Region.noConfusion (closing.symm.trans (congrArg Context.region sees))
  | _ => exact False.elim sees

end Piece

/-- **Reading pieces.** Behind pieces that stand one before the other the reader goes on as in
code. -/
theorem Context.read_pieces {done rest : List Piece} (stand : Piece.AllStand (done ++ rest))
    {context : Context} (border : context.AtBorder ((done ++ rest).flatMap Piece.text)) :
    (context.read (done.flatMap Piece.text)).AtBorder (rest.flatMap Piece.text) ∧
      (context.read (done.flatMap Piece.text)).depth =
        done.foldl (fun depth piece => piece.deepen depth) context.depth := by
  induction done generalizing context with
  | nil => exact ⟨border, rfl⟩
  | cons piece done ih =>
      obtain ⟨onward, depth⟩ := stand.1.read border
      have behind := ih stand.2 onward
      rw [depth] at behind
      rw [List.flatMap_cons, read_append]
      exact behind

end ModelScribe

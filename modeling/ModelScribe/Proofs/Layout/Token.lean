import ModelScribe.Proofs.Layout.Standing

/-! # Tokens of a text

A lexer of its own, which reads a text one character at a time
(`ModelScribe.Token.lex`): strings, comments, braces and closing punctuation, and
words of all other characters, with blanks between them that count for nothing.
The lemmas say what it makes of the pieces of a text, each of which it reads
without looking further than to the character that follows.
-/

namespace ModelScribe

open Text

/-- A token of source text. -/
inductive Token
  /-- A string with both its quotes. -/
  | literal (text : List Char)
  /-- A string whose closing quote is missing. -/
  | openLiteral (text : List Char)
  /-- A comment with both its marks. -/
  | blockComment (text : List Char)
  /-- A comment whose closing mark is missing. -/
  | openComment (text : List Char)
  /-- A comment up to the end of its line. -/
  | lineComment (text : List Char)
  /-- A brace, a comma, a semicolon, or a closing parenthesis or bracket. -/
  | mark (character : Char)
  /-- A longest run of other characters that are not blank. -/
  | word (text : List Char)
  deriving DecidableEq

namespace Token

/-- The characters that are tokens of their own. -/
def isMark (character : Char) : Bool :=
  ['{', '}', ',', ';', ')', ']'].contains character

/-- What is being read, with the characters of it that have been read. -/
inductive Mode
  | code (word : List Char)
  | literal (quote : Char) (text : List Char)
  | blockComment (text : List Char)
  | lineComment (text : List Char)

/-- A word that has been read, if there is one. -/
def ofWord (word : List Char) : List Token :=
  if word = [] then [] else [.word word]

/-- The tokens of the rest of a text. -/
def lexFrom : Mode → List Char → List Token
  | .code soFar, [] => ofWord soFar
  | .literal _ soFar, [] => [.openLiteral soFar]
  | .blockComment soFar, [] => [.openComment soFar]
  | .lineComment soFar, [] => [.lineComment soFar]
  | .code soFar, '/' :: '*' :: rest => ofWord soFar ++ lexFrom (.blockComment ['/', '*']) rest
  | .code soFar, '/' :: '/' :: rest => ofWord soFar ++ lexFrom (.lineComment ['/', '/']) rest
  | .code soFar, character :: rest =>
      if Piece.isQuote character then
        ofWord soFar ++ lexFrom (.literal character [character]) rest
      else if isMark character then ofWord soFar ++ .mark character :: lexFrom (.code []) rest
      else if isBlank character then ofWord soFar ++ lexFrom (.code []) rest
      else lexFrom (.code (soFar ++ [character])) rest
  | .literal quote soFar, '\\' :: escaped :: rest =>
      lexFrom (.literal quote (soFar ++ ['\\', escaped])) rest
  | .literal quote soFar, character :: rest =>
      if character = quote then .literal (soFar ++ [character]) :: lexFrom (.code []) rest
      else lexFrom (.literal quote (soFar ++ [character])) rest
  | .blockComment soFar, '*' :: '/' :: rest =>
      .blockComment (soFar ++ ['*', '/']) :: lexFrom (.code []) rest
  | .blockComment soFar, character :: rest =>
      lexFrom (.blockComment (soFar ++ [character])) rest
  | .lineComment soFar, character :: rest =>
      if character = '\n' then .lineComment soFar :: lexFrom (.code []) rest
      else lexFrom (.lineComment (soFar ++ [character])) rest

/-- The tokens of a text. -/
def lex (source : String) : List Token :=
  lexFrom (.code []) source.toList

/-- The token of a string, with or without its closing quote. -/
def ofLiteral (closed : Bool) (text : List Char) : Token :=
  if closed then .literal text else .openLiteral text

/-- The token of a comment, with or without its closing mark. -/
def ofComment (closed : Bool) (text : List Char) : Token :=
  if closed then .blockComment text else .openComment text

/-- A string is read up to its own quote, or to the end of the text. -/
theorem lexFrom_literal {quote : Char} {closed : Bool} {inside rest : List Char}
    (quoted : Piece.isQuote quote = true) (belongs : Piece.LiteralInside quote closed inside)
    (last : closed = false → rest = []) (text : List Char) :
    lexFrom (.literal quote text) (inside ++ rest) =
      ofLiteral closed (text ++ inside) :: lexFrom (.code []) rest := by
  have proper : quote ≠ '\\' := by
    rintro rfl
    simp [Piece.isQuote] at quoted
  induction belongs generalizing text with
  | nil =>
      rw [last rfl, List.append_nil, List.append_nil]
      rfl
  | backslash =>
      rw [last rfl]
      simp [lexFrom, proper.symm, ofLiteral, ofWord]
  | quote => simp [lexFrom, proper, ofLiteral]
  | escape escaped belongs ih => simp [lexFrom, ih last]
  | character other unescaped belongs ih => simp [lexFrom, ih last, other, unescaped]

/-- A block comment takes the next character, unless it closes there. -/
theorem lexFrom_blockComment_cons {character : Char} {rest : List Char}
    (unmarked : ¬ Piece.BeginsMarked (character :: rest)) (text : List Char) :
    lexFrom (.blockComment text) (character :: rest) =
      lexFrom (.blockComment (text ++ [character])) rest := by
  rw [lexFrom]
  rintro more rfl rfl
  exact unmarked ⟨more, rfl⟩

/-- A block comment is read up to its first closing, or to the end of the text. -/
theorem lexFrom_blockComment {closed : Bool} {inside rest : List Char}
    (belongs : Piece.CommentInside closed inside) (last : closed = false → rest = [])
    (text : List Char) :
    lexFrom (.blockComment text) (inside ++ rest) =
      ofComment closed (text ++ inside) :: lexFrom (.code []) rest := by
  induction belongs generalizing text with
  | nil =>
      rw [last rfl, List.append_nil, List.append_nil]
      rfl
  | mark => simp [lexFrom, ofComment]
  | @character closed character inside unmarked belongs ih =>
      have apart : ¬ Piece.BeginsMarked (character :: (inside ++ rest)) :=
        Piece.not_beginsMarked_of_inside unmarked belongs last
      rw [List.cons_append, lexFrom_blockComment_cons apart, ih last, List.append_assoc,
        List.singleton_append]

/-- A line comment is read up to the end of its line. -/
theorem lexFrom_lineComment {inside rest : List Char} (noFeed : '\n' ∉ inside)
    (stops : ∀ next ∈ rest.head?, next = '\n') (text : List Char) :
    lexFrom (.lineComment text) (inside ++ rest) =
      .lineComment (text ++ inside) :: lexFrom (.code []) rest := by
  induction inside generalizing text with
  | nil =>
      cases rest with
      | nil => simp [lexFrom, ofWord]
      | cons next rest =>
          obtain rfl := stops next rfl
          have skipped : lexFrom (.code []) ('\n' :: rest) = lexFrom (.code []) rest := rfl
          rw [List.nil_append, List.append_nil, skipped]
          rfl
  | cons character inside ih =>
      rw [List.mem_cons, not_or] at noFeed
      have inLine : character ≠ '\n' := fun same => noFeed.1 same.symm
      rw [List.cons_append, lexFrom, if_neg inLine, ih noFeed.2, List.append_assoc,
        List.singleton_append]

/-- A character that is not read with the next one. -/
theorem lexFrom_code_cons {character : Char} {rest : List Char}
    (apart : character = '/' → ∀ next ∈ rest.head?, next ≠ '/' ∧ next ≠ '*') (word : List Char) :
    lexFrom (.code word) (character :: rest) =
      if Piece.isQuote character then
        ofWord word ++ lexFrom (.literal character [character]) rest
      else if isMark character then ofWord word ++ mark character :: lexFrom (.code []) rest
      else if isBlank character then ofWord word ++ lexFrom (.code []) rest
      else lexFrom (.code (word ++ [character])) rest := by
  rw [lexFrom]
  · rintro more rfl rfl
    exact (apart rfl '*' rfl).2 rfl
  · rintro more rfl rfl
    exact (apart rfl '/' rfl).1 rfl

/-- A quote ends a word and begins a string. -/
theorem lexFrom_code_quote {quote : Char} (quoted : Piece.isQuote quote = true)
    (word rest : List Char) :
    lexFrom (.code word) (quote :: rest) =
      ofWord word ++ lexFrom (.literal quote [quote]) rest := by
  have noSlash : quote ≠ '/' := by
    rintro rfl
    simp [Piece.isQuote] at quoted
  rw [lexFrom_code_cons (fun slash => absurd slash noSlash), if_pos quoted]

/-- The marks are braces, commas, semicolons and closing brackets. -/
theorem isMark_iff {character : Char} :
    isMark character = true ↔ character = '{' ∨ character = '}' ∨ character = ',' ∨
      character = ';' ∨ character = ')' ∨ character = ']' := by
  simp [isMark]

/-- A mark begins neither a string nor a comment, and is no part of a word. -/
theorem apart_of_isMark {character : Char} (marks : isMark character = true) :
    Piece.isQuote character = false ∧ isBlank character = false ∧
      Piece.isPlain character = false ∧ character ≠ '/' ∧ character ≠ '*' := by
  rcases isMark_iff.mp marks with rfl | rfl | rfl | rfl | rfl | rfl <;> decide

/-- A mark ends a word and is a token by itself. -/
theorem lexFrom_code_mark {character : Char} (marks : isMark character = true)
    (word rest : List Char) :
    lexFrom (.code word) (character :: rest) =
      ofWord word ++ mark character :: lexFrom (.code []) rest := by
  rcases isMark_iff.mp marks with rfl | rfl | rfl | rfl | rfl | rfl <;> rfl

/-- A blank ends a word. -/
theorem lexFrom_code_blank {character : Char} (blank : isBlank character = true)
    (word rest : List Char) :
    lexFrom (.code word) (character :: rest) = ofWord word ++ lexFrom (.code []) rest := by
  obtain ⟨unquoted, noSlash⟩ := Piece.apart_of_isBlank blank
  have noMark : isMark character = false := by
    rw [Bool.eq_false_iff]
    intro marks
    exact absurd (blank.symm.trans (apart_of_isMark marks).2.1) Bool.noConfusion
  rw [lexFrom_code_cons (fun slash => absurd slash noSlash)]
  simp [unquoted, noMark, blank]

/-- A plain character belongs to the word before it. -/
theorem lexFrom_code_plain {character : Char} {rest : List Char}
    (plain : Piece.isPlain character = true)
    (apart : character = '/' → ∀ next ∈ rest.head?, next ≠ '/' ∧ next ≠ '*') (word : List Char) :
    lexFrom (.code word) (character :: rest) = lexFrom (.code (word ++ [character])) rest := by
  simp only [Piece.isPlain, Piece.isCloser, Bool.not_eq_true', Bool.or_eq_false_iff,
    beq_eq_false_iff_ne, List.contains_eq_mem, List.mem_cons, List.not_mem_nil, or_false,
    decide_eq_false_iff_not, not_or] at plain
  obtain ⟨⟨⟨unquoted, inked⟩, noParenthesis, noBracket⟩, noOpen, noClose, noComma, noSemicolon⟩ :=
    plain
  rw [lexFrom_code_cons apart]
  simp [isMark, unquoted, inked, noParenthesis, noBracket, noOpen, noClose, noComma, noSemicolon]

/-- Blanks count for nothing but the end of a word. -/
theorem lexFrom_code_blanks {gap : List Char} (blank : ∀ character ∈ gap, isBlank character = true)
    (nonempty : gap ≠ []) (word rest : List Char) :
    lexFrom (.code word) (gap ++ rest) = ofWord word ++ lexFrom (.code []) rest := by
  induction gap generalizing word with
  | nil => exact absurd rfl nonempty
  | cons character gap ih =>
      rw [List.cons_append, lexFrom_code_blank (blank character (List.mem_cons_self ..))]
      cases gap with
      | nil => rfl
      | cons next gap =>
          rw [ih (fun other member => blank other (List.mem_cons_of_mem _ member))
            (List.cons_ne_nil _ _)]
          rfl

/-- Blanks before a word that has not begun count for nothing. -/
theorem lexFrom_code_gap {gap word : List Char}
    (blank : ∀ character ∈ gap, isBlank character = true) (behind : word ≠ [] → gap = [])
    (rest : List Char) : lexFrom (.code word) (gap ++ rest) = lexFrom (.code word) rest := by
  by_cases left : gap = []
  · rw [left, List.nil_append]
  · obtain rfl : word = [] := not_not.mp fun begun => left (behind begun)
    rw [lexFrom_code_blanks blank left]
    rfl

/-- A word ends before a separator and at the end of the text. -/
theorem lexFrom_code_separator {rest : List Char}
    (separates : ∀ next ∈ rest.head?, Piece.isSeparator next = true) (word : List Char) :
    lexFrom (.code word) rest = ofWord word ++ lexFrom (.code []) rest := by
  cases rest with
  | nil => exact (List.append_nil _).symm
  | cons character rest =>
      have ends := separates character rfl
      by_cases blank : isBlank character = true
      · rw [lexFrom_code_blank blank, lexFrom_code_blank blank]
        rfl
      · have marks : isMark character = true := by
          simp only [Piece.isSeparator, Piece.isCloser, blank, Bool.false_or, Bool.or_eq_true,
            beq_iff_eq] at ends
          rcases ends with ((rfl | rfl) | rfl) | rfl <;> rfl
        rw [lexFrom_code_mark marks, lexFrom_code_mark marks]
        rfl

end Token

end ModelScribe

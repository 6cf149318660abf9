import ModelScribe.Text.Blank

/-! # Pieces of source text

A source text is cut into pieces, each of which the layout treats as a whole: literals, comments,
runs of blanks, braces and other punctuation, and single characters of everything else.

* `Piece.split`: the pieces of a text.
* `Piece.flatMap_text_split`: the pieces of a text are the text.
-/

namespace ModelScribe

/-- A piece of source text. -/
inductive Piece
  /-- A string with its quotes; the closing one may be missing at the end of the text. -/
  | literal (text : List Char)
  /-- A comment between its marks; the closing one may be missing at the end of the text. -/
  | blockComment (text : List Char)
  /-- A comment up to the end of its line. -/
  | lineComment (text : List Char)
  /-- A longest run of blanks. -/
  | blanks (text : List Char)
  /-- An opening brace with something before the next closing one. -/
  | openBrace
  /-- A pair of braces with at most blanks between them. -/
  | emptyBraces (gap : List Char)
  | closeBrace
  | comma
  | semicolon
  /-- A closing parenthesis or bracket. -/
  | closer (character : Char)
  /-- Any other character. -/
  | plain (character : Char)
  deriving DecidableEq

namespace Piece

/-- The characters that start and end a string. -/
def isQuote (character : Char) : Bool :=
  character == '\'' || character == '"' || character == '`'

/-- The closing parentheses and brackets. -/
def isCloser (character : Char) : Bool :=
  character == ')' || character == ']'

/-- The text of a piece. -/
def text : Piece → List Char
  | literal text => text
  | blockComment text => text
  | lineComment text => text
  | blanks text => text
  | openBrace => ['{']
  | emptyBraces gap => '{' :: gap ++ ['}']
  | closeBrace => ['}']
  | comma => [',']
  | semicolon => [';']
  | closer character => [character]
  | plain character => [character]

/-- What belongs to a string behind its opening quote, and what follows it. A backslash takes the
next character with it. -/
def splitLiteral (quote : Char) : List Char → List Char × List Char
  | [] => ([], [])
  | ['\\'] => (['\\'], [])
  | '\\' :: escaped :: rest =>
      let (inside, after) := splitLiteral quote rest
      ('\\' :: escaped :: inside, after)
  | character :: rest =>
      if character = quote then ([character], rest)
      else
        let (inside, after) := splitLiteral quote rest
        (character :: inside, after)

/-- What belongs to a block comment behind its opening mark, and what follows it. -/
def splitComment : List Char → List Char × List Char
  | [] => ([], [])
  | '*' :: '/' :: rest => (['*', '/'], rest)
  | character :: rest =>
      let (inside, after) := splitComment rest
      (character :: inside, after)

/-- The piece that starts with a character, and what follows it. -/
def first (character : Char) (rest : List Char) : Piece × List Char :=
  if isQuote character then
    let (inside, after) := splitLiteral character rest
    (literal (character :: inside), after)
  else if character = '/' then
    match rest with
    | '*' :: rest =>
        let (inside, after) := splitComment rest
        (blockComment ('/' :: '*' :: inside), after)
    | '/' :: rest =>
        (lineComment ('/' :: '/' :: rest.takeWhile (· != '\n')), rest.dropWhile (· != '\n'))
    | rest => (plain '/', rest)
  else if Text.isBlank character then
    (blanks (character :: rest.takeWhile Text.isBlank), rest.dropWhile Text.isBlank)
  else if character = '{' then
    match rest.dropWhile Text.isBlank with
    | '}' :: after => (emptyBraces (rest.takeWhile Text.isBlank), after)
    | _ => (openBrace, rest)
  else if character = '}' then (closeBrace, rest)
  else if character = ',' then (comma, rest)
  else if character = ';' then (semicolon, rest)
  else if isCloser character then (closer character, rest)
  else (plain character, rest)

/-- A literal's text and what follows it are the text they were split from. -/
theorem splitLiteral_append (quote : Char) (text : List Char) :
    (splitLiteral quote text).1 ++ (splitLiteral quote text).2 = text := by
  fun_induction splitLiteral quote text <;> simp_all

/-- A comment's text and what follows it are the text they were split from. -/
theorem splitComment_append (text : List Char) :
    (splitComment text).1 ++ (splitComment text).2 = text := by
  fun_induction splitComment text <;> simp_all

/-- A piece and what follows it are the text it was taken from. -/
theorem text_first_append (character : Char) (rest : List Char) :
    (first character rest).1.text ++ (first character rest).2 = character :: rest := by
  unfold first
  split
  · simp [text, splitLiteral_append]
  · split
    · next slash =>
        subst slash
        split <;> simp [text, splitComment_append]
    · split
      · simp [text]
      · split
        · next brace =>
            subst brace
            split
            · next after closing =>
                have whole := List.takeWhile_append_dropWhile (p := Text.isBlank) (l := rest)
                rw [closing] at whole
                simp [text, whole]
            · rfl
        · split
          · simp_all [text]
          · split
            · simp_all [text]
            · split
              · simp_all [text]
              · split <;> simp_all [text]

/-- Each piece takes at least one character. -/
theorem length_first_lt (character : Char) (rest : List Char) :
    (first character rest).2.length < (character :: rest).length := by
  have whole := congrArg List.length (text_first_append character rest)
  have nonempty : 0 < (first character rest).1.text.length := by
    unfold first
    repeat' split
    all_goals simp [text]
  simp only [List.length_append] at whole
  omega

/-- The pieces of a text, in order. -/
def split : List Char → List Piece
  | [] => []
  | character :: rest =>
      (first character rest).1 :: split (first character rest).2
termination_by text => text.length
decreasing_by exact length_first_lt character rest

/-- The pieces of a text are the text. -/
theorem flatMap_text_split (source : List Char) : (split source).flatMap text = source := by
  fun_induction split source with
  | case1 => rfl
  | case2 character rest ih =>
      rw [List.flatMap_cons, ih, text_first_append]

end Piece

end ModelScribe

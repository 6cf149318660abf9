import ModelScribe.Layout.Draft
import ModelScribe.Layout.Piece

/-! # Laying out source text

One statement a line, one member a line between braces, each line indented by the braces open
before it. Strings stay as they are and comments keep their words.

* `Draft.place`: what one piece of a source does to a draft.
* `Layout.format`: a whole source laid out.
-/

namespace ModelScribe

/-- Writes a comma, which ends the line between braces. -/
def Draft.placeComma (draft : Draft) : Draft :=
  let draft := draft.attach [',']
  if 0 < draft.depth then draft.breakLine else draft

/-- Puts the next piece of a source into a draft. -/
def Draft.place (draft : Draft) : Piece → Draft
  | .literal text => draft.write text
  | .blockComment text => draft.comment text
  | .lineComment text => (draft.write text).breakLine
  | .blanks text => draft.gap (text.count '\n')
  | .openBrace => (draft.write ['{']).enter
  | .emptyBraces _ => (draft.write ['{']).attach ['}']
  | .closeBrace => draft.leave
  | .comma => draft.placeComma
  | .semicolon => (draft.attach [';']).breakLine
  | .closer character => draft.attach [character]
  | .plain character => draft.write [character]

/-- The draft of a source whose pieces have all been placed. -/
def Layout.draft (options : LayoutOptions) (source : List Char) : Draft :=
  (Piece.split source).foldl Draft.place { unit := options.indentUnit }

/-- A source laid out. -/
def Layout.format (options : LayoutOptions) (source : String) : String :=
  String.ofList (Layout.draft options source.toList).text

end ModelScribe

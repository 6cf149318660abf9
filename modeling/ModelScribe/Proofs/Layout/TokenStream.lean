import Mathlib.Data.List.Forall2
import ModelScribe.Proofs.Layout.Recutting
import ModelScribe.Proofs.Layout.Token

/-! # The token stream of a layout

A source and its layout have the same tokens, one for one and in order
(`ModelScribe.Layout.keeps_lex`). Words, punctuation and closed strings stay as
they are; comments and open strings may lose blanks, as `ModelScribe.Token.Keeps`
says.

The proof reads the source and its layout side by side. A word in progress is the
same in both, for as long as the next piece would be laid out right behind it.
-/

namespace ModelScribe

open Text

namespace Token

/-- How a token may change by being laid out. -/
inductive Keeps : Token → Token → Prop
  | literal (text : List Char) : Keeps (.literal text) (.literal text)
  | mark (character : Char) : Keeps (.mark character) (.mark character)
  | word (text : List Char) : Keeps (.word text) (.word text)
  /-- An open string may lose blanks at its end. -/
  | openLiteral {source laid : List Char} (same : trimEnd source = trimEnd laid) :
      Keeps (.openLiteral source) (.openLiteral laid)
  /-- A line comment may lose blanks at its end. -/
  | lineComment {source laid : List Char} (same : trimEnd source = trimEnd laid) :
      Keeps (.lineComment source) (.lineComment laid)
  /-- A closed comment keeps its lines up to the blanks around each. -/
  | blockComment {source laid : List Char}
      (same : (source.splitOn '\n').map trim = (laid.splitOn '\n').map trim) :
      Keeps (.blockComment source) (.blockComment laid)
  /-- An open comment keeps its lines up to the blanks around each and blank lines at its end. -/
  | openComment {source laid : List Char} (count : Nat)
      (same : (source.splitOn '\n').map trim =
        (laid.splitOn '\n').map trim ++ List.replicate count []) :
      Keeps (.openComment source) (.openComment laid)

theorem keeps_ofWord (word : List Char) : List.Forall₂ Keeps (ofWord word) (ofWord word) := by
  unfold ofWord
  split
  · exact .nil
  · exact .cons (.word word) .nil

/-- A string is closed as it was or loses blanks at its end. -/
theorem keeps_ofLiteral (closed : Bool) {source laid : List Char}
    (ends : closed = true → source = laid) (same : trimEnd source = trimEnd laid) :
    Keeps (ofLiteral closed source) (ofLiteral closed laid) := by
  cases closed with
  | true =>
      rw [ends rfl]
      exact .literal laid
  | false => exact .openLiteral same

/-- A comment keeps the lines that are not left out at its end. -/
theorem keeps_ofComment {closed : Bool} {indentation inside : List Char}
    (indents : IsIndentation indentation) (belongs : Piece.CommentInside closed inside) :
    Keeps (ofComment closed ('/' :: '*' :: inside))
      (ofComment closed (Draft.settledComment indentation ('/' :: '*' :: inside))) := by
  obtain ⟨count, same, whole⟩ := Draft.map_trim_splitOn_settledComment indents belongs
  cases closed with
  | true =>
      rw [whole rfl, List.replicate_zero, List.append_nil] at same
      exact .blockComment same
  | false => exact .openComment count same

variable {rest : List Char}

theorem lexFrom_pieceLiteral {quote : Char} {closed : Bool} {inside : List Char}
    (quoted : Piece.isQuote quote = true) (belongs : Piece.LiteralInside quote closed inside)
    (last : closed = false → rest = []) (word : List Char) :
    lexFrom (.code word) (quote :: inside ++ rest) =
      ofWord word ++ ofLiteral closed (quote :: inside) :: lexFrom (.code []) rest := by
  rw [List.cons_append, lexFrom_code_quote quoted, lexFrom_literal quoted belongs last]
  rfl

theorem lexFrom_pieceBlockComment {closed : Bool} {inside : List Char}
    (belongs : Piece.CommentInside closed inside) (last : closed = false → rest = [])
    (word : List Char) :
    lexFrom (.code word) ('/' :: '*' :: inside ++ rest) =
      ofWord word ++ ofComment closed ('/' :: '*' :: inside) :: lexFrom (.code []) rest := by
  rw [List.cons_append, List.cons_append, lexFrom, lexFrom_blockComment belongs last]
  rfl

theorem lexFrom_pieceLineComment {inside : List Char} (noFeed : '\n' ∉ inside)
    (stops : ∀ next ∈ rest.head?, next = '\n') (word : List Char) :
    lexFrom (.code word) ('/' :: '/' :: inside ++ rest) =
      ofWord word ++ .lineComment ('/' :: '/' :: inside) :: lexFrom (.code []) rest := by
  rw [List.cons_append, List.cons_append, lexFrom, lexFrom_lineComment noFeed stops]
  rfl

theorem lexFrom_emptyBraces {gap : List Char}
    (blank : ∀ character ∈ gap, isBlank character = true) (word : List Char) :
    lexFrom (.code word) ('{' :: gap ++ ['}'] ++ rest) =
      ofWord word ++ .mark '{' :: .mark '}' :: lexFrom (.code []) rest := by
  rw [List.append_assoc, List.cons_append, lexFrom_code_mark (by decide)]
  cases gap with
  | nil => rfl
  | cons character gap =>
      rw [lexFrom_code_blanks blank (List.cons_ne_nil _ _)]
      rfl

end Token

namespace Piece

/-- The piece of a mark that stands by itself. -/
def ofMark : Char → Piece
  | '{' => openBrace
  | '}' => closeBrace
  | ',' => comma
  | ';' => semicolon
  | character => closer character

/-- The tokens of a piece that is no part of a word. -/
inductive HasTokens : Piece → List Token → Prop
  | literal (closed : Bool) (text : List Char) :
      HasTokens (literal text) [Token.ofLiteral closed text]
  | blockComment (closed : Bool) (text : List Char) :
      HasTokens (blockComment text) [Token.ofComment closed text]
  | lineComment (text : List Char) : HasTokens (lineComment text) [.lineComment text]
  | mark {character : Char} (marks : Token.isMark character = true) :
      HasTokens (ofMark character) [.mark character]
  | emptyBraces (gap : List Char) : HasTokens (emptyBraces gap) [.mark '{', .mark '}']

/-- A piece that is no part of a word is read by itself. -/
theorem Stands.exists_hasTokens {piece : Piece} {rest : List Char} (stands : piece.Stands rest)
    (notBlank : ∀ gap, piece ≠ blanks gap) (notPlain : ∀ character, piece ≠ plain character) :
    ∃ tokens, piece.HasTokens tokens ∧ ∀ word, Token.lexFrom (.code word) (piece.text ++ rest) =
      Token.ofWord word ++ (tokens ++ Token.lexFrom (.code []) rest) := by
  have single : ∀ character : Char, Token.isMark character = true →
      ∃ tokens, (ofMark character).HasTokens tokens ∧
        ∀ word, Token.lexFrom (.code word) ([character] ++ rest) =
          Token.ofWord word ++ (tokens ++ Token.lexFrom (.code []) rest) :=
    fun _ marks => ⟨_, .mark marks, fun word => Token.lexFrom_code_mark marks word rest⟩
  cases piece with
  | literal text =>
      obtain ⟨quote, inside, closed, quoted, rfl, belongs, last⟩ := stands
      exact ⟨_, .literal closed _, Token.lexFrom_pieceLiteral quoted belongs last⟩
  | blockComment text =>
      obtain ⟨inside, closed, rfl, belongs, last⟩ := stands
      exact ⟨_, .blockComment closed _, Token.lexFrom_pieceBlockComment belongs last⟩
  | lineComment text =>
      obtain ⟨inside, rfl, inLine, ends⟩ := stands
      exact ⟨_, .lineComment _, Token.lexFrom_pieceLineComment inLine ends⟩
  | blanks text => exact absurd rfl (notBlank text)
  | emptyBraces gap => exact ⟨_, .emptyBraces gap, Token.lexFrom_emptyBraces stands⟩
  | openBrace => exact single '{' rfl
  | closeBrace => exact single '}' rfl
  | comma => exact single ',' rfl
  | semicolon => exact single ';' rfl
  | closer character =>
      simp only [Stands, isCloser, Bool.or_eq_true, beq_iff_eq] at stands
      rcases stands with rfl | rfl
      · exact single ')' rfl
      · exact single ']' rfl
  | plain character => exact absurd rfl (notPlain character)

end Piece

namespace Token

/-- A text and its layout give tokens, behind any word, of which the second are the first as they
may be laid out. -/
def Read (source laid : List Char) (restSource restLaid : List Char) : Prop :=
  ∃ first second, List.Forall₂ Keeps first second ∧
    (∀ word, lexFrom (.code word) (source ++ restSource) =
      ofWord word ++ (first ++ lexFrom (.code []) restSource)) ∧
    ∀ word, lexFrom (.code word) (laid ++ restLaid) =
      ofWord word ++ (second ++ lexFrom (.code []) restLaid)

theorem read_mark {character : Char} (marks : isMark character = true)
    (restSource restLaid : List Char) : Read [character] [character] restSource restLaid :=
  ⟨[.mark character], [.mark character], .cons (.mark character) .nil,
    fun word => lexFrom_code_mark marks word restSource,
    fun word => lexFrom_code_mark marks word restLaid⟩

end Token

namespace Layout

open Token

variable {unit : List Char} {pieces : List Piece}

/-- **Tokens of a piece.** A piece that is no part of a word is read by itself in the source, and so
it is in the layout. -/
theorem read_piece (indents : IsIndentation unit) {piece : Piece} (spot : Spot)
    (stands : piece.Stands (pieces.flatMap Piece.text)) (stand : Piece.AllStand pieces)
    (notBlank : ∀ gap, piece ≠ .blanks gap) (notPlain : ∀ character, piece ≠ .plain character) :
    Read piece.text (piece.settled ((spot.approach piece).indentation unit)).text
      (pieces.flatMap Piece.text)
      ((lay unit (spot.after piece) pieces).flatMap Piece.text) := by
  have last := lay_eq_nil unit (spot.after piece) stand
  cases piece with
  | literal text =>
      obtain ⟨quote, inside, closed, quoted, rfl, belongs, ends⟩ := stands
      obtain ⟨kept, trimmed, set, same⟩ := Piece.exists_trimEnd_literal quoted belongs
      have keeps : Keeps (ofLiteral closed (quote :: inside))
          (ofLiteral closed (quote :: kept)) := by
        refine keeps_ofLiteral closed (fun closes => ?_) ?_
        · rw [same closes]
        · rw [← trimmed, trimEnd_trimEnd]
      simp only [Piece.settled, Piece.text, trimmed]
      exact ⟨[_], [_], .cons keeps .nil, lexFrom_pieceLiteral quoted belongs ends,
        lexFrom_pieceLiteral quoted set fun opens => last (ends opens)⟩
  | blockComment text =>
      obtain ⟨inside, closed, rfl, belongs, ends⟩ := stands
      have level : IsIndentation ((spot.approach (.blockComment [])).indentation unit) :=
        Spot.forall_mem_indentation indents _
      obtain ⟨settled, shape, set⟩ := Draft.commentInside_settledComment level.blank belongs
      have keeps := keeps_ofComment level belongs
      simp only [Piece.settled, Piece.text]
      refine ⟨[_], [_], .cons keeps .nil, lexFrom_pieceBlockComment belongs ends, ?_⟩
      have laid := lexFrom_pieceBlockComment set fun opens => last (ends opens)
      rw [← shape] at laid
      exact laid
  | lineComment text =>
      obtain ⟨inside, rfl, noFeed, stops⟩ := stands
      have trimmed : trimEnd ('/' :: '/' :: inside) = '/' :: '/' :: trimEnd inside := by
        rw [trimEnd_cons_of_inked (by decide), trimEnd_cons_of_inked (by decide)]
      have keeps : Keeps (.lineComment ('/' :: '/' :: inside))
          (.lineComment ('/' :: '/' :: trimEnd inside)) := by
        refine .lineComment ?_
        rw [← trimmed, trimEnd_trimEnd]
      simp only [Piece.settled, Piece.text, trimmed]
      exact ⟨[_], [_], .cons keeps .nil, lexFrom_pieceLineComment noFeed stops,
        lexFrom_pieceLineComment (fun feed => noFeed (mem_of_mem_trimEnd feed))
          (lineFeed_lay rfl)⟩
  | blanks text => exact absurd rfl (notBlank text)
  | openBrace => exact read_mark (by decide) _ _
  | emptyBraces gap =>
      exact ⟨[.mark '{', .mark '}'], [.mark '{', .mark '}'],
        .cons (.mark '{') (.cons (.mark '}') .nil), lexFrom_emptyBraces stands,
        lexFrom_emptyBraces (List.forall_mem_nil _)⟩
  | closeBrace => exact read_mark (by decide) _ _
  | comma => exact read_mark (by decide) _ _
  | semicolon => exact read_mark (by decide) _ _
  | closer character =>
      refine read_mark ?_ _ _
      simp only [Piece.Stands, Piece.isCloser, Bool.or_eq_true, beq_iff_eq] at stands
      rcases stands with rfl | rfl <;> decide
  | plain character => exact absurd rfl (notPlain character)

/-- A gap before a piece that is no part of a word changes nothing. -/
theorem lexFrom_gap {gap laid rest : List Char} {tokens : List Token}
    (blank : ∀ character ∈ gap, isBlank character = true)
    (reads : ∀ word, lexFrom (.code word) (laid ++ rest) =
      ofWord word ++ (tokens ++ lexFrom (.code []) rest)) (word : List Char) :
    lexFrom (.code word) (gap ++ (laid ++ rest)) =
      ofWord word ++ (tokens ++ lexFrom (.code []) rest) := by
  by_cases left : gap = []
  · rw [left, List.nil_append, reads]
  · rw [lexFrom_code_blanks blank left, reads]
    rfl

/-- **Tokens of pieces.** The pieces of a source and what is laid out for them have the same tokens.
A word in progress stands on the line on which the next piece is laid out. -/
theorem keeps_lexFrom (indents : IsIndentation unit) (stand : Piece.AllStand pieces) {spot : Spot}
    {word : List Char} (inProgress : word ≠ [] → spot.place = .inLine false) :
    List.Forall₂ Keeps (lexFrom (.code word) (pieces.flatMap Piece.text))
      (lexFrom (.code word) ((lay unit spot pieces).flatMap Piece.text)) := by
  induction pieces generalizing spot word with
  | nil => exact keeps_ofWord word
  | cons piece pieces ih =>
      have onward : List.Forall₂ Keeps (lexFrom (.code []) (pieces.flatMap Piece.text))
          (lexFrom (.code []) ((lay unit (spot.after piece) pieces).flatMap Piece.text)) :=
        ih stand.2 (absurd rfl)
      rw [List.flatMap_cons, lay, List.flatMap_append]
      by_cases gap : ∃ text, piece = .blanks text
      · obtain ⟨text, rfl⟩ := gap
        have source := lexFrom_code_blanks stand.1.2.1 stand.1.1 word (pieces.flatMap Piece.text)
        have laid : lexFrom (.code word)
            ((lay unit (spot.after (.blanks text)) pieces).flatMap Piece.text) = ofWord word ++
              lexFrom (.code [])
                ((lay unit (spot.after (.blanks text)) pieces).flatMap Piece.text) := by
          by_cases none : word = []
          · rw [none]
            rfl
          · have begun : spot.place ≠ .textStart := by
              rw [inProgress none]
              exact Place.noConfusion
            exact lexFrom_code_separator
              (separates_lay indents.blank (Spot.parted_pause begun _) stand.2) word
        rw [Piece.text, source, layPiece, List.flatMap_nil, List.nil_append, laid]
        exact List.rel_append (keeps_ofWord word) onward
      · have notBlank : ∀ text, piece ≠ .blanks text := fun text same => gap ⟨text, same⟩
        have settled := stands_settled indents.blank notBlank spot stand.1 stand.2
        rw [flatMap_text_layPiece _ _ notBlank, List.append_assoc]
        by_cases plain : ∃ character, piece = .plain character
        · obtain ⟨character, rfl⟩ := plain
          have behind : word ≠ [] → spot.gap unit = [] := by
            intro begun
            rw [Spot.gap, inProgress begun]
            rfl
          have source := lexFrom_code_plain stand.1.1 stand.1.2 word
          have laid := lexFrom_code_plain settled.1 settled.2 word
          rw [← lexFrom_code_gap (Spot.isBlank_of_mem_gap indents.blank spot) behind] at laid
          have longer : List.Forall₂ Keeps
              (lexFrom (.code (word ++ [character])) (pieces.flatMap Piece.text))
              (lexFrom (.code (word ++ [character]))
                ((lay unit (spot.after (.plain character)) pieces).flatMap Piece.text)) :=
            ih stand.2 fun _ => rfl
          rw [← source, ← laid] at longer
          exact longer
        · obtain ⟨first, second, keeps, source, laid⟩ := read_piece indents spot stand.1 stand.2
            notBlank fun character same => plain ⟨character, same⟩
          rw [source, lexFrom_gap (Spot.isBlank_of_mem_gap indents.blank _) laid]
          exact List.rel_append (keeps_ofWord word) (List.rel_append keeps onward)

/-- **Preservation of tokens.** A source and its layout have the same tokens in the same order. -/
theorem keeps_lex (options : LayoutOptions) (source : String) :
    List.Forall₂ Keeps (lex source) (lex (format options source)) := by
  have keeps : List.Forall₂ Keeps
      (lexFrom (.code []) ((Piece.split source.toList).flatMap Piece.text))
      (lexFrom (.code [])
        ((lay options.indentUnit .start (Piece.split source.toList)).flatMap Piece.text)) :=
    keeps_lexFrom options.isIndentation_indentUnit (Piece.allStand_split source.toList) (absurd rfl)
  rw [Piece.flatMap_text_split, ← text_draft] at keeps
  rwa [lex, lex, format, String.toList_ofList]

end Layout

end ModelScribe

import Mathlib.Data.List.TakeWhile
import ModelScribe.Layout.Piece

/-! # Pieces that stand before a text

A piece stands before a text if it is the first piece of its own text followed by
that one (`ModelScribe.Piece.split_text_append`). Every piece that is cut off a
text stands before what is left (`ModelScribe.Piece.stands_first`), so the pieces
of a text are the only ones that stand one before the other and spell it
(`ModelScribe.Piece.split_flatMap_text`).
-/

namespace ModelScribe.Piece

/-- The characters that are neither blank nor of any use in cutting a text into pieces, the slash
included. -/
def isPlain (character : Char) : Bool :=
  !(isQuote character || Text.isBlank character || isCloser character ||
    ['{', '}', ',', ';'].contains character)

/-- The characters that end a word and begin no comment: blanks and closing punctuation. -/
def isSeparator (character : Char) : Bool :=
  Text.isBlank character || isCloser character || character == ',' || character == ';'

/-- What stands behind the opening quote of a literal: up to and with its closing quote, or all of
the text where there is none. -/
inductive LiteralInside (quote : Char) : (closed : Bool) → List Char → Prop
  | nil : LiteralInside quote false []
  | backslash : LiteralInside quote false ['\\']
  | quote : LiteralInside quote true [quote]
  | escape {closed : Bool} (escaped : Char) {inside : List Char}
      (belongs : LiteralInside quote closed inside) :
      LiteralInside quote closed ('\\' :: escaped :: inside)
  | character {closed : Bool} {character : Char} {inside : List Char} (other : character ≠ quote)
      (unescaped : character ≠ '\\') (belongs : LiteralInside quote closed inside) :
      LiteralInside quote closed (character :: inside)

/-- The text begins with the closing mark of block comments. -/
def BeginsMarked (text : List Char) : Prop := ∃ rest, text = '*' :: '/' :: rest

/-- What stands behind the opening mark of a block comment: up to and with its closing mark, or all
of the text where there is none. -/
inductive CommentInside : (closed : Bool) → List Char → Prop
  | nil : CommentInside false []
  | mark : CommentInside true ['*', '/']
  | character {closed : Bool} {character : Char} {inside : List Char}
      (unmarked : ¬ BeginsMarked (character :: inside)) (belongs : CommentInside closed inside) :
      CommentInside closed (character :: inside)

/-- A string is cut off behind its own quote, or at the end of the text. -/
theorem splitLiteral_of_inside {quote : Char} {closed : Bool} {inside rest : List Char}
    (quoted : isQuote quote = true) (belongs : LiteralInside quote closed inside)
    (last : closed = false → rest = []) :
    splitLiteral quote (inside ++ rest) = (inside, rest) := by
  have proper : quote ≠ '\\' := by
    rintro rfl
    simp [isQuote] at quoted
  induction belongs with
  | nil => rw [last rfl]; rfl
  | backslash => rw [last rfl]; rfl
  | quote => simp [splitLiteral, proper]
  | escape escaped belongs ih => simp [splitLiteral, ih last]
  | character other unescaped belongs ih => simp [splitLiteral, ih last, other, unescaped]

/-- A literal is closed or takes the whole text. -/
theorem inside_splitLiteral (quote : Char) (text : List Char) :
    ∃ closed, LiteralInside quote closed (splitLiteral quote text).1 ∧
      (closed = false → (splitLiteral quote text).2 = []) := by
  fun_induction splitLiteral quote text with
  | case1 => exact ⟨false, .nil, fun _ => rfl⟩
  | case2 => exact ⟨false, .backslash, fun _ => rfl⟩
  | case3 escaped rest inside after cut ih =>
      rw [cut] at ih
      obtain ⟨closed, belongs, last⟩ := ih
      exact ⟨closed, .escape escaped belongs, last⟩
  | case4 rest => exact ⟨true, .quote, fun unclosed => absurd unclosed (by decide)⟩
  | case5 character rest lone escapes other inside after cut ih =>
      rw [cut] at ih
      obtain ⟨closed, belongs, last⟩ := ih
      have unescaped : character ≠ '\\' := by
        rintro rfl
        cases rest with
        | nil => exact lone rfl rfl
        | cons escaped rest => exact escapes escaped rest rfl rfl
      exact ⟨closed, .character other unescaped belongs, last⟩

/-- A beginning of an open literal is an open literal. -/
theorem LiteralInside.of_prefix {quote : Char} {inside kept : List Char}
    (opens : LiteralInside quote false inside) (shorter : kept <+: inside) :
    LiteralInside quote false kept := by
  generalize unclosed : false = closed at opens
  induction opens generalizing kept with
  | nil =>
      rw [List.prefix_nil.mp shorter]
      exact .nil
  | backslash =>
      rcases List.prefix_cons_iff.mp shorter with rfl | ⟨rest, rfl, short⟩
      · exact .nil
      · rw [List.prefix_nil.mp short]
        exact .backslash
  | quote => exact absurd unclosed (by decide)
  | escape escaped belongs ih =>
      subst unclosed
      rcases List.prefix_cons_iff.mp shorter with rfl | ⟨rest, rfl, short⟩
      · exact .nil
      · rcases List.prefix_cons_iff.mp short with rfl | ⟨more, rfl, shortest⟩
        · exact .backslash
        · exact .escape escaped (ih shortest rfl)
  | character other unescaped belongs ih =>
      subst unclosed
      rcases List.prefix_cons_iff.mp shorter with rfl | ⟨rest, rfl, short⟩
      · exact .nil
      · exact .character other unescaped (ih short rfl)

/-- A closing mark does not begin between a character and what follows it, whatever comes later. -/
theorem not_beginsMarked_append {character : Char} {inside : List Char}
    (unmarked : ¬ BeginsMarked (character :: inside)) (nonempty : inside ≠ []) (rest : List Char) :
    ¬ BeginsMarked (character :: (inside ++ rest)) := by
  obtain ⟨next, inside, rfl⟩ := List.exists_cons_of_ne_nil nonempty
  rintro ⟨more, same⟩
  simp only [List.cons_append, List.cons.injEq] at same
  exact unmarked ⟨inside, by rw [same.1, same.2.1]⟩

/-- A closing mark does not begin between a character of a comment and what follows it. -/
theorem not_beginsMarked_of_inside {closed : Bool} {character : Char} {inside rest : List Char}
    (unmarked : ¬ BeginsMarked (character :: inside)) (belongs : CommentInside closed inside)
    (last : closed = false → rest = []) : ¬ BeginsMarked (character :: (inside ++ rest)) := by
  by_cases nonempty : inside = []
  · have unclosed : closed = false := by
      subst nonempty
      cases belongs
      rfl
    rwa [last unclosed, List.append_nil]
  · exact not_beginsMarked_append unmarked nonempty rest

theorem splitComment_cons {character : Char} {rest : List Char}
    (unmarked : ¬ BeginsMarked (character :: rest)) :
    splitComment (character :: rest) =
      (character :: (splitComment rest).1, (splitComment rest).2) := by
  rw [splitComment]
  rintro more rfl rfl
  exact unmarked ⟨more, rfl⟩

/-- A comment is cut off behind its first closing, or at the end of the text. -/
theorem splitComment_of_inside {closed : Bool} {inside rest : List Char}
    (belongs : CommentInside closed inside) (last : closed = false → rest = []) :
    splitComment (inside ++ rest) = (inside, rest) := by
  induction belongs with
  | nil => rw [last rfl]; rfl
  | mark => rfl
  | @character closed character inside unmarked belongs ih =>
      have apart := not_beginsMarked_of_inside unmarked belongs last
      rw [List.cons_append, splitComment_cons apart, ih last]

/-- A block comment is closed or takes the whole text. -/
theorem inside_splitComment (text : List Char) :
    ∃ closed, CommentInside closed (splitComment text).1 ∧
      (closed = false → (splitComment text).2 = []) := by
  fun_induction splitComment text with
  | case1 => exact ⟨false, .nil, fun _ => rfl⟩
  | case2 rest => exact ⟨true, .mark, fun unclosed => absurd unclosed (by decide)⟩
  | case3 character rest unmarked inside after cut ih =>
      have whole := splitComment_append rest
      rw [cut] at ih whole
      obtain ⟨closed, belongs, last⟩ := ih
      refine ⟨closed, .character ?_ belongs, last⟩
      rintro ⟨more, same⟩
      rw [List.cons.injEq] at same
      exact unmarked (more ++ after) same.1 (by rw [← whole, same.2]; rfl)

/-- The first piece of a text, where the piece is followed by the given rest. -/
def Stands (rest : List Char) : Piece → Prop
  | literal text => ∃ quote inside closed, isQuote quote = true ∧ text = quote :: inside ∧
      LiteralInside quote closed inside ∧ (closed = false → rest = [])
  | blockComment text => ∃ inside closed, text = '/' :: '*' :: inside ∧
      CommentInside closed inside ∧ (closed = false → rest = [])
  | lineComment text => ∃ inside, text = '/' :: '/' :: inside ∧ '\n' ∉ inside ∧
      ∀ next ∈ rest.head?, next = '\n'
  | blanks text => text ≠ [] ∧ (∀ character ∈ text, Text.isBlank character = true) ∧
      ∀ next ∈ rest.head?, Text.isBlank next = false
  | openBrace => (rest.dropWhile Text.isBlank).head? ≠ some '}'
  | emptyBraces gap => ∀ character ∈ gap, Text.isBlank character = true
  | closeBrace => True
  | comma => True
  | semicolon => True
  | closer character => isCloser character = true
  | plain character => isPlain character = true ∧
      (character = '/' → ∀ next ∈ rest.head?, next ≠ '/' ∧ next ≠ '*')

/-- The first piece of a text stands before what follows it. -/
theorem stands_first (character : Char) (rest : List Char) :
    (first character rest).1.Stands (first character rest).2 := by
  unfold first
  split
  · next quoted =>
      obtain ⟨closed, belongs, last⟩ := inside_splitLiteral character rest
      exact ⟨character, _, closed, quoted, rfl, belongs, last⟩
  · next unquoted =>
      split
      · next slash =>
          subst slash
          split
          · next inside =>
              obtain ⟨closed, belongs, last⟩ := inside_splitComment inside
              exact ⟨_, closed, rfl, belongs, last⟩
          · next inside =>
              refine ⟨_, rfl, ?_, ?_⟩
              · intro member
                simpa using List.mem_takeWhile_imp member
              · intro next member
                have stopped := List.head?_dropWhile_not (· != '\n') inside
                rw [Option.mem_def.mp member] at stopped
                simpa using stopped
          · next noBlock noLine =>
              refine ⟨by decide, fun _ next member => ?_⟩
              obtain ⟨more, rfl⟩ := List.head?_eq_some_iff.mp (Option.mem_def.mp member)
              constructor
              · rintro rfl
                exact noLine more rfl
              · rintro rfl
                exact noBlock more rfl
      · next noSlash =>
          split
          · next blank =>
              refine ⟨List.cons_ne_nil _ _, ?_, ?_⟩
              · intro other member
                rcases List.mem_cons.mp member with rfl | member
                · exact blank
                · exact List.mem_takeWhile_imp member
              · intro next member
                have stopped := List.head?_dropWhile_not Text.isBlank rest
                rwa [Option.mem_def.mp member] at stopped
          · next inked =>
              split
              · next brace =>
                  split
                  · next after closing => exact fun other member => List.mem_takeWhile_imp member
                  · next more =>
                      intro closing
                      obtain ⟨after, same⟩ := List.head?_eq_some_iff.mp closing
                      exact more after same
              · next noBrace =>
                  split
                  · trivial
                  · split
                    · trivial
                    · split
                      · trivial
                      · split
                        · next closing => exact closing
                        · refine ⟨?_, fun slash => absurd slash noSlash⟩
                          simp_all [isPlain]

theorem apart_of_isBlank {character : Char} (blank : Text.isBlank character = true) :
    isQuote character = false ∧ character ≠ '/' := by
  constructor
  · rw [Bool.eq_false_iff]
    intro quoted
    simp only [isQuote, Bool.or_eq_true, beq_iff_eq] at quoted
    rcases quoted with (rfl | rfl) | rfl <;> simp [Text.isBlank] at blank
  · rintro rfl
    simp [Text.isBlank] at blank

theorem isBlank_of_isQuote {quote : Char} (quoted : isQuote quote = true) :
    Text.isBlank quote = false := by
  rw [Bool.eq_false_iff]
  intro blank
  exact Bool.false_ne_true ((apart_of_isBlank blank).1.symm.trans quoted)

/-- Blanks end where something else begins. -/
theorem span_blanks {gap rest : List Char}
    (blank : ∀ character ∈ gap, Text.isBlank character = true)
    (stops : ∀ next ∈ rest.head?, Text.isBlank next = false) :
    (gap ++ rest).takeWhile Text.isBlank = gap ∧ (gap ++ rest).dropWhile Text.isBlank = rest := by
  rw [List.takeWhile_append_of_pos blank, List.dropWhile_append_of_pos blank]
  cases rest with
  | nil => simp
  | cons next rest => simp [stops next rfl]

/-- A line comment ends where the line does. -/
theorem span_line {inside rest : List Char} (noFeed : '\n' ∉ inside)
    (stops : ∀ next ∈ rest.head?, next = '\n') :
    (inside ++ rest).takeWhile (· != '\n') = inside ∧
      (inside ++ rest).dropWhile (· != '\n') = rest := by
  have kept : ∀ character ∈ inside, (character != '\n') = true := by
    intro character member
    simp only [bne_iff_ne, ne_eq]
    rintro rfl
    exact noFeed member
  rw [List.takeWhile_append_of_pos kept, List.dropWhile_append_of_pos kept]
  cases rest with
  | nil => simp
  | cons next rest => simp [stops next rfl]

/-- A plain character is a piece of its own, unless it is a slash that begins a comment. -/
theorem first_of_plain {character : Char} {rest : List Char} (plain : isPlain character = true)
    (apart : character = '/' → ∀ next ∈ rest.head?, next ≠ '/' ∧ next ≠ '*') :
    first character rest = (.plain character, rest) := by
  simp only [isPlain, Bool.not_eq_true', Bool.or_eq_false_iff, List.contains_eq_mem,
    List.mem_cons, List.not_mem_nil, or_false, decide_eq_false_iff_not, not_or] at plain
  obtain ⟨⟨⟨unquoted, inked⟩, noCloser⟩, noOpen, noClose, noComma, noSemicolon⟩ := plain
  unfold first
  by_cases slash : character = '/'
  · subst slash
    simp only [unquoted, Bool.false_eq_true, ↓reduceIte]
    split
    · next inside => exact absurd rfl (apart rfl '*' rfl).2
    · next inside => exact absurd rfl (apart rfl '/' rfl).1
    · rfl
  · simp [unquoted, slash, inked, noOpen, noClose, noComma, noSemicolon, noCloser]

/-- A piece that stands before a text is the first one of the two. -/
theorem first_of_stands {piece : Piece} {rest : List Char} (stands : piece.Stands rest) :
    ∃ character more, piece.text ++ rest = character :: more ∧
      first character more = (piece, rest) := by
  cases piece with
  | literal text =>
      obtain ⟨quote, inside, closed, quoted, rfl, belongs, last⟩ := stands
      refine ⟨quote, inside ++ rest, rfl, ?_⟩
      simp [first, quoted, splitLiteral_of_inside quoted belongs last]
  | blockComment text =>
      obtain ⟨inside, closed, rfl, belongs, last⟩ := stands
      refine ⟨'/', '*' :: (inside ++ rest), rfl, ?_⟩
      simp [first, isQuote, splitComment_of_inside belongs last]
  | lineComment text =>
      obtain ⟨inside, rfl, noFeed, stops⟩ := stands
      refine ⟨'/', '/' :: (inside ++ rest), rfl, ?_⟩
      simp [first, isQuote, span_line noFeed stops]
  | blanks text =>
      obtain ⟨nonempty, blank, stops⟩ := stands
      obtain ⟨character, gap, rfl⟩ := List.exists_cons_of_ne_nil nonempty
      refine ⟨character, gap ++ rest, rfl, ?_⟩
      have spanned := span_blanks (fun other member => blank other (List.mem_cons_of_mem _ member))
        stops
      have apart := apart_of_isBlank (blank character (List.mem_cons_self ..))
      simp [first, apart, blank character, spanned]
  | openBrace =>
      refine ⟨'{', rest, rfl, ?_⟩
      have unquoted : ¬ isQuote '{' = true := by decide
      have inked : ¬ Text.isBlank '{' = true := by decide
      unfold first
      rw [if_neg unquoted, if_neg (by decide), if_neg inked, if_pos rfl]
      split
      · next after closing => exact absurd (by rw [closing]; rfl) stands
      · rfl
  | emptyBraces gap =>
      refine ⟨'{', gap ++ '}' :: rest, by simp [text], ?_⟩
      have stops : ∀ next ∈ ('}' :: rest).head?, Text.isBlank next = false := by
        simp [Text.isBlank]
      have spanned := span_blanks stands stops
      simp [first, isQuote, Text.isBlank, spanned]
  | closeBrace => exact ⟨'}', rest, rfl, rfl⟩
  | comma => exact ⟨',', rest, rfl, rfl⟩
  | semicolon => exact ⟨';', rest, rfl, rfl⟩
  | closer character =>
      refine ⟨character, rest, rfl, ?_⟩
      simp only [Stands, isCloser, Bool.or_eq_true, beq_iff_eq] at stands
      rcases stands with rfl | rfl <;> rfl
  | plain character => exact ⟨character, rest, rfl, first_of_plain stands.1 stands.2⟩

/-- Cutting a text off behind a piece that stands there. -/
theorem split_text_append {piece : Piece} {rest : List Char} (stands : piece.Stands rest) :
    split (piece.text ++ rest) = piece :: split rest := by
  obtain ⟨character, more, whole, first⟩ := first_of_stands stands
  rw [whole, split, first]

/-- Each piece of a list stands before the text of the next ones. -/
def AllStand : List Piece → Prop
  | [] => True
  | piece :: pieces => piece.Stands (pieces.flatMap text) ∧ AllStand pieces

/-- The pieces of a text stand in it. -/
theorem allStand_split (source : List Char) : AllStand (split source) := by
  fun_induction split source with
  | case1 => trivial
  | case2 character rest ih =>
      refine ⟨?_, ih⟩
      rw [flatMap_text_split]
      exact stands_first character rest

/-- Pieces that stand one before the other are the pieces of their text. -/
theorem split_flatMap_text {pieces : List Piece} (stand : AllStand pieces) :
    split (pieces.flatMap text) = pieces := by
  induction pieces with
  | nil => simp [split]
  | cons piece pieces ih =>
      rw [List.flatMap_cons, split_text_append stand.1, ih stand.2]

end ModelScribe.Piece

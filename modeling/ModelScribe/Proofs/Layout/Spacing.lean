import ModelScribe.Proofs.Layout.Relayout
import ModelScribe.Proofs.Layout.Stretch
import ModelScribe.Proofs.Layout.TokenStream

/-! # Spacing

A layout depends on the tokens of its source and on little of the blanks between
them (`ModelScribe.Layout.format_congr`): before each token, on whether there are
any, and outside braces on whether there is a line feed among them, or several.

The tokens of a text with the blanks before each (`ModelScribe.Spaced.ofText`)
spell the text but for blanks at its end (`ModelScribe.Spaced.spells_ofText`), and
they say which pieces it is cut into (`ModelScribe.Spaced.exists_split_eq`). Pieces
that differ in such blanks alone are then laid out side by side
(`ModelScribe.Layout.lay_pieces_congr`).
-/

namespace ModelScribe

open Text

namespace Token

/-- The text of a token. -/
def text : Token → List Char
  | literal text | openLiteral text | blockComment text | openComment text | lineComment text
  | word text => text
  | mark character => [character]

/-- The number of open braces behind a token. A closing brace that closes nothing does not count. -/
def depthAfter (depth : Nat) : Token → Nat
  | mark '{' => depth + 1
  | mark '}' => depth - 1
  | _ => depth

end Token

/-- A token with the blanks before it. -/
structure Spaced where
  gap : List Char
  token : Token
  deriving DecidableEq

namespace Spaced

/-- Tokens as they stand in a text one after the other, each with the blanks before it. -/
def along : List Char → List Token → List Spaced
  | _, [] => []
  | source, token :: tokens =>
      ⟨source.takeWhile isBlank, token⟩ ::
        along ((source.dropWhile isBlank).drop token.text.length) tokens

/-- The tokens of a text, each with the blanks before it. -/
def ofText (source : String) : List Spaced :=
  along source.toList (Token.lex source)

/-- Blanks that count for the same behind so many open braces. -/
structure AlikeGaps (depth : Nat) (first second : List Char) : Prop where
  apart : first = [] ↔ second = []
  /-- Outside braces, as many line feeds, where two stand for more. -/
  lineFeeds : depth = 0 → min 2 (first.count '\n') = min 2 (second.count '\n')

/-- The same tokens, behind blanks that count for the same. -/
inductive Alike : (depth : Nat) → List Spaced → List Spaced → Prop
  | nil (depth : Nat) : Alike depth [] []
  | cons {depth : Nat} {first second : List Char} {firsts seconds : List Spaced} (token : Token)
      (gaps : AlikeGaps depth first second)
      (more : Alike (token.depthAfter depth) firsts seconds) :
      Alike depth (⟨first, token⟩ :: firsts) (⟨second, token⟩ :: seconds)

instance (depth : Nat) (first second : List Char) : Decidable (AlikeGaps depth first second) :=
  decidable_of_iff ((first = [] ↔ second = []) ∧
      (depth = 0 → min 2 (first.count '\n') = min 2 (second.count '\n')))
    ⟨fun both => ⟨both.1, both.2⟩, fun gaps => ⟨gaps.apart, gaps.lineFeeds⟩⟩

/-- Spaced tokens are alike if the first ones are, behind gaps that count for the same, and so are
the others. -/
theorem alike_cons_iff {depth : Nat} {first second : Spaced} {firsts seconds : List Spaced} :
    Alike depth (first :: firsts) (second :: seconds) ↔
      first.token = second.token ∧ AlikeGaps depth first.gap second.gap ∧
        Alike (first.token.depthAfter depth) firsts seconds := by
  constructor
  · intro alike
    cases alike with
    | cons token gaps more => exact ⟨rfl, gaps, more⟩
  · rintro ⟨same, gaps, more⟩
    cases first
    cases second
    cases same
    exact .cons _ gaps more

instance decidableAlike : (depth : Nat) → (firsts seconds : List Spaced) →
    Decidable (Alike depth firsts seconds)
  | depth, [], [] => isTrue (.nil depth)
  | _, [], _ :: _ => isFalse nofun
  | _, _ :: _, [] => isFalse nofun
  | depth, first :: firsts, _ :: seconds =>
      have := decidableAlike (first.token.depthAfter depth) firsts seconds
      decidable_of_iff _ alike_cons_iff.symm

end Spaced

/-- The pieces of a token that stands by itself. -/
def Token.pieces : Token → List Piece
  | literal text | openLiteral text => [.literal text]
  | blockComment text | openComment text => [.blockComment text]
  | lineComment text => [.lineComment text]
  | mark character => [.ofMark character]
  | word text => text.map .plain

theorem Piece.text_ofMark (character : Char) : (ofMark character).text = [character] := by
  unfold ofMark
  split <;> rfl

namespace Token

/-- The pieces of a token have its text. -/
theorem flatMap_text_pieces (token : Token) : token.pieces.flatMap Piece.text = token.text := by
  cases token with
  | mark character =>
      rw [pieces, List.flatMap_singleton, Piece.text_ofMark]
      rfl
  | word text => simp [pieces, List.flatMap_map, Piece.text, Token.text]
  | _ => exact List.flatMap_singleton ..

variable (closed : Bool) (source : List Char)

theorem text_ofLiteral : (ofLiteral closed source).text = source := by
  cases closed <;> rfl

theorem text_ofComment : (ofComment closed source).text = source := by
  cases closed <;> rfl

theorem pieces_ofLiteral : (ofLiteral closed source).pieces = [.literal source] := by
  cases closed <;> rfl

theorem pieces_ofComment : (ofComment closed source).pieces = [.blockComment source] := by
  cases closed <;> rfl

theorem ofLiteral_ne_mark (character : Char) : ofLiteral closed source ≠ mark character := by
  cases closed <;> exact Token.noConfusion

theorem ofComment_ne_mark (character : Char) : ofComment closed source ≠ mark character := by
  cases closed <;> exact Token.noConfusion

end Token

namespace Spaced

/-- The pieces of spaced tokens. An opening brace and a closing one behind it are one piece, with
the blanks between them. -/
def pieces : List Spaced → List Piece
  | [] => []
  | ⟨gap, .mark '{'⟩ :: ⟨inner, .mark '}'⟩ :: items =>
      Piece.ofGap gap ++ .emptyBraces inner :: pieces items
  | ⟨gap, token⟩ :: items => Piece.ofGap gap ++ (token.pieces ++ pieces items)

/-- The first token is a closing brace. -/
def Closes (items : List Spaced) : Prop :=
  ∃ inner more, items = ⟨inner, .mark '}'⟩ :: more

/-- A spaced token gives the pieces of its gap and its own, unless it hugs the next. -/
theorem pieces_cons (gap : List Char) {token : Token} {items : List Spaced}
    (apart : token = .mark '{' → ¬ Closes items) :
    pieces (⟨gap, token⟩ :: items) = Piece.ofGap gap ++ (token.pieces ++ pieces items) := by
  rw [pieces]
  rintro inner more rfl rfl
  exact apart rfl ⟨inner, more, rfl⟩

variable {gap word rest : List Char} {tokens : List Token}

/-- A token that begins with ink stands behind the blanks before it. -/
theorem along_cons (blank : ∀ character ∈ gap, isBlank character = true) {token : Token}
    (begins : BeginsInked token.text) :
    along (gap ++ (token.text ++ rest)) (token :: tokens) = ⟨gap, token⟩ :: along rest tokens := by
  obtain ⟨cut, left⟩ := Piece.span_blanks blank (begins.append rest).isBlank_head?
  rw [along, cut, left, List.drop_left]

/-- The tokens of a piece stand for that piece. -/
theorem pieces_along_append {piece : Piece} {own : List Token} (reads : piece.HasTokens own)
    (stands : piece.Stands rest) (blank : ∀ character ∈ gap, isBlank character = true)
    (opens : piece = .openBrace → ¬ Closes (along rest tokens)) :
    pieces (along (gap ++ (piece.text ++ rest)) (own ++ tokens)) =
      Piece.ofGap gap ++ piece :: pieces (along rest tokens) := by
  have single : ∀ token : Token, token.text = piece.text → token.pieces = [piece] →
      (token = .mark '{' → piece = .openBrace) → (∀ gap, piece ≠ .blanks gap) →
        pieces (along (gap ++ (piece.text ++ rest)) (token :: tokens)) =
          Piece.ofGap gap ++ piece :: pieces (along rest tokens) := by
    intro token same alone brace notBlank
    have begins : BeginsInked token.text := same ▸ Piece.beginsInked_of_stands stands notBlank
    rw [← same, along_cons blank begins, pieces_cons gap fun mark => opens (brace mark), alone,
      List.singleton_append]
  cases reads with
  | literal closed text =>
      exact single _ (Token.text_ofLiteral closed text) (Token.pieces_ofLiteral closed text)
        (fun mark => absurd mark (Token.ofLiteral_ne_mark closed text '{'))
        fun _ => Piece.noConfusion
  | blockComment closed text =>
      exact single _ (Token.text_ofComment closed text) (Token.pieces_ofComment closed text)
        (fun mark => absurd mark (Token.ofComment_ne_mark closed text '{'))
        fun _ => Piece.noConfusion
  | lineComment text => exact single _ rfl rfl Token.noConfusion fun _ => Piece.noConfusion
  | mark marks =>
      refine single _ ?_ rfl ?_ ?_
      · exact (Piece.text_ofMark _).symm
      · intro brace
        rw [Token.mark.inj brace]
        rfl
      · rcases Token.isMark_iff.mp marks with rfl | rfl | rfl | rfl | rfl | rfl <;>
          exact fun _ => Piece.noConfusion
  | emptyBraces inner =>
      have whole : gap ++ ((Piece.emptyBraces inner).text ++ rest) =
          gap ++ ((Token.mark '{').text ++ (inner ++ ((Token.mark '}').text ++ rest))) := by
        simp [Piece.text, Token.text]
      have brace : ∀ character, isBlank character = false →
          BeginsInked (Token.mark character).text :=
        fun character inked => ⟨character, [], rfl, inked⟩
      rw [whole, List.cons_append, List.singleton_append, along_cons blank (brace '{' rfl),
        along_cons stands (brace '}' rfl)]
      rfl

/-- An opening brace that stands by itself has no closing brace as the next token. -/
theorem not_closes_along {ps : List Piece} {tail : List Char}
    (stands : Piece.openBrace.Stands (ps.flatMap Piece.text))
    (same : pieces (along (ps.flatMap Piece.text) tokens) ++ Piece.ofGap tail = ps) :
    ¬ Closes (along (ps.flatMap Piece.text) tokens) := by
  rintro ⟨inner, more, closing⟩
  have blank : ∀ character ∈ inner, isBlank character = true := by
    cases tokens with
    | nil => exact absurd closing.symm (List.cons_ne_nil _ _)
    | cons token tokens =>
        rw [along, List.cons.injEq, Spaced.mk.injEq] at closing
        rw [← closing.1.1]
        exact fun character member => List.mem_takeWhile_imp member
  rw [closing, pieces_cons inner fun same => absurd (Token.mark.inj same) (by decide)] at same
  rw [← same, List.flatMap_append, List.flatMap_append, Piece.flatMap_text_ofGap,
    List.append_assoc] at stands
  rw [Piece.Stands, List.dropWhile_append_of_pos blank] at stands
  exact stands rfl

/-- The spaced tokens of what is left of a text say which pieces it is cut into, but for blanks at
its end. The gap and the word before the pieces have been read. -/
def Gives (gap word : List Char) (ps : List Piece) : Prop :=
  ∃ tail, (∀ character ∈ tail, isBlank character = true) ∧
    pieces (along (gap ++ (word ++ ps.flatMap Piece.text))
        (Token.lexFrom (.code word) (ps.flatMap Piece.text))) ++ Piece.ofGap tail =
      Piece.ofGap gap ++ (word.map .plain ++ ps)

namespace Gives

variable {ps : List Piece}

theorem nil (blank : ∀ character ∈ gap, isBlank character = true) : Gives gap [] [] :=
  ⟨gap, blank, (List.append_nil _).symm⟩

/-- A word that ends where the pieces begin. -/
theorem behind_word (blank : ∀ character ∈ gap, isBlank character = true)
    (begins : BeginsInked word)
    (ends : Token.lexFrom (.code word) (ps.flatMap Piece.text) =
      Token.ofWord word ++ Token.lexFrom (.code []) (ps.flatMap Piece.text))
    (onward : Gives [] [] ps) : Gives gap word ps := by
  obtain ⟨tail, blanks, same⟩ := onward
  have inked : BeginsInked (Token.word word).text := begins
  have shape : along (gap ++ (word ++ ps.flatMap Piece.text))
      (.word word :: Token.lexFrom (.code []) (ps.flatMap Piece.text)) = _ :=
    along_cons blank inked
  have own : Token.ofWord word = [.word word] := if_neg begins.ne_nil
  refine ⟨tail, blanks, ?_⟩
  rw [ends, own, List.singleton_append]
  refine (congrArg (pieces · ++ Piece.ofGap tail) shape).trans ?_
  rw [pieces_cons gap Token.noConfusion, List.append_assoc, List.append_assoc]
  exact congrArg _ (congrArg _ same)

/-- Blanks are the gap of what follows them. -/
theorem blanks {text : List Char} (stands : (Piece.blanks text).Stands (ps.flatMap Piece.text))
    (onward : Gives text [] ps) : Gives [] [] (.blanks text :: ps) := by
  obtain ⟨tail, blanks, same⟩ := onward
  have cut : Piece.ofGap text = [.blanks text] := if_neg stands.1
  refine ⟨tail, blanks, ?_⟩
  rw [cut] at same
  rw [List.flatMap_cons, Piece.text, Token.lexFrom_code_blanks stands.2.1 stands.1]
  exact same

/-- A plain character belongs to the word before it. -/
theorem plain {character : Char}
    (stands : (Piece.plain character).Stands (ps.flatMap Piece.text))
    (onward : Gives gap (word ++ [character]) ps) : Gives gap word (.plain character :: ps) := by
  obtain ⟨tail, blanks, same⟩ := onward
  refine ⟨tail, blanks, ?_⟩
  rw [List.flatMap_cons, Piece.text, List.singleton_append,
    Token.lexFrom_code_plain stands.1 stands.2]
  simpa using same

/-- Any other piece is read by itself. -/
theorem of_hasTokens {piece : Piece} {own : List Token} (reads : piece.HasTokens own)
    (lexed : ∀ word, Token.lexFrom (.code word) (piece.text ++ ps.flatMap Piece.text) =
      Token.ofWord word ++ (own ++ Token.lexFrom (.code []) (ps.flatMap Piece.text)))
    (stands : piece.Stands (ps.flatMap Piece.text))
    (blank : ∀ character ∈ gap, isBlank character = true) (onward : Gives [] [] ps) :
    Gives gap [] (piece :: ps) := by
  obtain ⟨tail, blanks, same⟩ := onward
  have opens : piece = .openBrace → _ := fun brace => not_closes_along (brace ▸ stands) same
  refine ⟨tail, blanks, ?_⟩
  rw [List.flatMap_cons, lexed, List.nil_append]
  refine (congrArg (· ++ Piece.ofGap tail) (pieces_along_append reads stands blank opens)).trans ?_
  rw [List.append_assoc, List.cons_append]
  exact congrArg _ (congrArg _ same)

end Gives

/-- **Pieces from tokens.** The spaced tokens of pieces that stand one before the other give these
pieces. -/
theorem gives_of_allStand {ps : List Piece} (stand : Piece.AllStand ps)
    (blank : ∀ character ∈ gap, isBlank character = true) (begins : word = [] ∨ BeginsInked word)
    (stops : gap = [] ∨ ∀ next ∈ (word ++ ps.flatMap Piece.text).head?, isBlank next = false) :
    Gives gap word ps := by
  induction ps generalizing gap word with
  | nil =>
      rcases begins with rfl | begins
      · exact .nil blank
      · exact .behind_word blank begins (List.append_nil _).symm (.nil (List.forall_mem_nil _))
  | cons piece ps ih =>
      by_cases spaces : ∃ text, piece = .blanks text
      · obtain ⟨text, rfl⟩ := spaces
        have onward : Gives [] [] (.blanks text :: ps) :=
          .blanks stand.1 (ih stand.2 stand.1.2.1 (.inl rfl) (.inr stand.1.2.2))
        rcases begins with rfl | begins
        · rcases stops with rfl | stops
          · exact onward
          · obtain ⟨character, more, rfl⟩ := List.exists_cons_of_ne_nil stand.1.1
            have blank := stand.1.2.1 character (List.mem_cons_self ..)
            exact absurd ((stops character rfl).symm.trans blank) Bool.false_ne_true
        · refine .behind_word blank begins ?_ onward
          rw [List.flatMap_cons, Piece.text, Token.lexFrom_code_blanks stand.1.2.1 stand.1.1,
            Token.lexFrom_code_blanks stand.1.2.1 stand.1.1]
          rfl
      · have notBlank : ∀ text, piece ≠ .blanks text := fun text same => spaces ⟨text, same⟩
        have first := Piece.beginsInked_of_stands stand.1 notBlank
        by_cases letter : ∃ character, piece = .plain character
        · obtain ⟨character, rfl⟩ := letter
          refine .plain stand.1 (ih stand.2 blank (.inr ?_) (by rwa [List.append_assoc]))
          rcases begins with rfl | begins
          · exact first
          · exact begins.append _
        · obtain ⟨own, reads, lexed⟩ := stand.1.exists_hasTokens notBlank
            fun character same => letter ⟨character, same⟩
          have onward : Gives [] [] ps :=
            ih stand.2 (List.forall_mem_nil _) (.inl rfl) (.inl rfl)
          rcases begins with rfl | begins
          · exact .of_hasTokens reads lexed stand.1 blank onward
          · refine .behind_word blank begins ?_
              (.of_hasTokens reads lexed stand.1 (List.forall_mem_nil _) onward)
            rw [List.flatMap_cons, lexed, lexed]
            rfl

/-- A text is cut into the pieces of its spaced tokens and of the blanks at its end. -/
theorem exists_split_eq (source : String) :
    ∃ tail, (∀ character ∈ tail, isBlank character = true) ∧
      Piece.split source.toList = pieces (ofText source) ++ Piece.ofGap tail := by
  obtain ⟨tail, blank, same⟩ := gives_of_allStand (Piece.allStand_split source.toList)
    (List.forall_mem_nil _) (.inl rfl) (.inl rfl)
  rw [Piece.flatMap_text_split] at same
  exact ⟨tail, blank, same.symm⟩

theorem flatMap_text_pieces (items : List Spaced) :
    (pieces items).flatMap Piece.text = items.flatMap fun item => item.gap ++ item.token.text := by
  fun_induction pieces items with
  | case1 => rfl
  | case2 gap inner items ih => simp [Piece.text, Token.text, ih]
  | case3 gap token items apart ih => simp [Token.flatMap_text_pieces, ih]

/-- Tokens found along a text are the tokens that were looked for. -/
theorem map_token_along (source : List Char) (tokens : List Token) :
    (along source tokens).map token = tokens := by
  induction tokens generalizing source with
  | nil => rfl
  | cons token tokens ih => exact congrArg (token :: ·) (ih _)

/-- Only blanks stand in the gaps along a text. -/
theorem isBlank_of_mem_along (source : List Char) (tokens : List Token) :
    ∀ item ∈ along source tokens, ∀ character ∈ item.gap, isBlank character = true := by
  induction tokens generalizing source with
  | nil => exact List.forall_mem_nil _
  | cons token tokens ih =>
      exact List.forall_mem_cons.mpr ⟨fun character member => List.mem_takeWhile_imp member, ih _⟩

/-- Spaced tokens are the tokens of the text they are taken from and the blanks between these, and
spell it but for blanks at its end. -/
theorem spells_ofText (source : String) :
    (ofText source).map token = Token.lex source ∧
      (∀ item ∈ ofText source, ∀ character ∈ item.gap, isBlank character = true) ∧
      ∃ tail, (∀ character ∈ tail, isBlank character = true) ∧ source.toList =
        (ofText source).flatMap (fun item => item.gap ++ item.token.text) ++ tail := by
  refine ⟨map_token_along _ _, isBlank_of_mem_along _ _, ?_⟩
  obtain ⟨tail, blank, same⟩ := exists_split_eq source
  refine ⟨tail, blank, ?_⟩
  rw [← Piece.flatMap_text_split source.toList, same, List.flatMap_append, flatMap_text_pieces,
    Piece.flatMap_text_ofGap]

/-- Blanks that count for the same lead to the same spot. -/
theorem AlikeGaps.across_eq {spot : Spot} {first second : List Char}
    (gaps : AlikeGaps spot.depth first second) : spot.across first = spot.across second := by
  have pause : spot.pause (first.count '\n') = spot.pause (second.count '\n') := by
    unfold Spot.pause
    by_cases outside : spot.depth = 0
    · have feeds := gaps.lineFeeds outside
      have none : first.count '\n' = 0 ↔ second.count '\n' = 0 := by omega
      have several : 2 ≤ first.count '\n' ↔ 2 ≤ second.count '\n' := by omega
      simp only [none, several]
    · have within : 0 < spot.depth := Nat.pos_of_ne_zero outside
      rw [if_pos (.inl within), if_pos (.inl within)]
  unfold Spot.across
  by_cases none : first = []
  · rw [if_pos none, if_pos (gaps.apart.mp none)]
  · rw [if_neg none, if_neg (mt gaps.apart.mpr none), pause]

end Spaced

/-- The pieces of a token change the depth as the token does. -/
theorem Token.depth_behind_pieces (spot : Spot) (token : Token) :
    (spot.behind token.pieces).depth = token.depthAfter spot.depth := by
  cases token with
  | word text =>
      rw [Spot.depth_behind, pieces, List.foldl_map]
      exact List.foldl_fixed _
  | mark character =>
      rw [pieces, Spot.behind, List.foldl_cons, List.foldl_nil, Spot.depth_after]
      unfold Piece.ofMark depthAfter
      split <;> simp_all [Piece.deepen]
  | _ => rfl

/-- Alike tokens begin with a closing brace or not. -/
theorem Spaced.Alike.closes {depth : Nat} {firsts seconds : List Spaced}
    (alike : Alike depth firsts seconds) (closes : Closes seconds) : Closes firsts := by
  obtain ⟨inner, more, rfl⟩ := closes
  cases alike with
  | cons => exact ⟨_, _, rfl⟩

namespace Layout

/-- Nothing is laid out for blanks. -/
theorem lay_ofGap (unit : List Char) (spot : Spot) (gap : List Char) :
    lay unit spot (Piece.ofGap gap) = [] := by
  have laid := lay_ofGap_append unit spot gap []
  rwa [List.append_nil] at laid

/-- **Side by side.** Alike spaced tokens are laid out alike from a spot on. -/
theorem lay_pieces_congr (unit : List Char) {spot : Spot} {firsts seconds : List Spaced}
    (alike : Spaced.Alike spot.depth firsts seconds) :
    lay unit spot (Spaced.pieces firsts) = lay unit spot (Spaced.pieces seconds) := by
  fun_induction Spaced.pieces firsts generalizing spot seconds with
  | case1 =>
      cases alike
      rfl
  | case2 gap inner items ih =>
      cases alike with
      | cons _ gaps more =>
      cases more with
      | cons _ _ rest =>
      rw [Spaced.pieces, lay_ofGap_append, lay_ofGap_append, gaps.across_eq, lay, lay]
      refine congrArg _ (ih ?_)
      rwa [Spot.depth_after, Spot.depth_across]
  | case3 gap token items apart ih =>
      cases alike with
      | cons _ gaps more =>
      have alone : token = .mark '{' → ¬ Spaced.Closes items := by
        rintro rfl ⟨inner, others, rfl⟩
        exact apart inner others rfl rfl
      rw [Spaced.pieces_cons _ fun brace closes => alone brace (more.closes closes),
        lay_ofGap_append, lay_ofGap_append, gaps.across_eq, lay_append, lay_append]
      refine congrArg _ (ih ?_)
      rwa [Token.depth_behind_pieces, Spot.depth_across]

/-- **Incidental blanks.** Two texts have the same layout if they have the same tokens, behind
blanks that count for the same; blanks behind the last token do not count. -/
theorem format_congr (options : LayoutOptions) {first second : String}
    (alike : Spaced.Alike 0 (Spaced.ofText first) (Spaced.ofText second)) :
    format options first = format options second := by
  obtain ⟨tail, _, cut⟩ := Spaced.exists_split_eq first
  obtain ⟨other, _, otherCut⟩ := Spaced.exists_split_eq second
  have same : lay options.indentUnit .start (Spaced.pieces (Spaced.ofText first)) = _ :=
    lay_pieces_congr options.indentUnit alike
  have laid : lay options.indentUnit .start (Piece.split first.toList) =
      lay options.indentUnit .start (Piece.split second.toList) := by
    rw [cut, otherCut, lay_append, lay_append, lay_ofGap, lay_ofGap, same]
  rw [format, format, text_draft, text_draft, laid]

/-- Blanks of several kinds inside and outside of braces, and behind the last token of one text. -/
theorem format_congr_comment :
    let first := "a \x7b b:1 ,\n\n c \x7d // d\n\n\ne\r\n"
    let second := "a\t\x7b\n\nb:1\u00a0, c\r\n\x7d // d\n \n e"
    let laid := "a \x7b\n\tb:1,\n\tc\n\x7d // d\n\ne"
    Spaced.Alike 0 (Spaced.ofText first) (Spaced.ofText second) ∧
      format ⟨true, 4⟩ first = laid ∧ format ⟨true, 4⟩ second = laid := by
  intro first second laid
  have alike : Spaced.Alike 0 (Spaced.ofText first) (Spaced.ofText second) := by decide +kernel
  have same : format ⟨true, 4⟩ first = format ⟨true, 4⟩ second := format_congr ⟨true, 4⟩ alike
  have firstLaid : format ⟨true, 4⟩ first = laid := by decide +kernel
  exact ⟨alike, firstLaid, same.symm.trans firstLaid⟩

/-- Outside braces line feeds are not spaces. -/
example : format ⟨true, 4⟩ "a\nb" ≠ format ⟨true, 4⟩ "a b" := by decide +kernel

end Layout

end ModelScribe

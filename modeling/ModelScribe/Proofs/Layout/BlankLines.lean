import ModelScribe.Proofs.Layout.Indentation
import ModelScribe.Proofs.Layout.TokenStream

/-! # The blank lines of a layout

Of a source whose strings do not go across lines and whose comments have no blank
lines, the layout has no blanks at the ends of its lines, no line feed at its
beginning or end, and no two empty lines in a row, and its empty lines stand outside
all braces (`ModelScribe.Layout.tidyLines_format`).

The tokens of such a source are compact, and so are its pieces
(`ModelScribe.Piece.AllStand.isCompact`). A compact piece ends with ink, and so does
what a line feed of the layout stands behind, but for the line feed of a blank line
(`ModelScribe.Layout.endsInked_of_lineFeed`).
-/

namespace ModelScribe

open Text

/-- A string on one line, or a comment without a blank line, or any other token. -/
def Token.IsCompact : Token → Prop
  | .literal text | .openLiteral text => '\n' ∉ text
  | .blockComment text | .openComment text => ∀ line ∈ Text.lines text, ink line ≠ []
  | _ => True

instance : DecidablePred Token.IsCompact
  | .literal text | .openLiteral text => inferInstanceAs (Decidable ('\n' ∉ text))
  | .blockComment text | .openComment text =>
      inferInstanceAs (Decidable (∀ line ∈ Text.lines text, ink line ≠ []))
  | .lineComment _ | .mark _ | .word _ => inferInstanceAs (Decidable True)

namespace Piece

/-- The piece is a compact token, or no string and no comment. -/
def IsCompact : Piece → Prop
  | literal text => '\n' ∉ text
  | blockComment text => ∀ line ∈ Text.lines text, ink line ≠ []
  | _ => True

variable {piece : Piece} {rest : List Char}

theorem HasTokens.isCompact {tokens : List Token} (own : piece.HasTokens tokens)
    (compact : ∀ token ∈ tokens, token.IsCompact) : piece.IsCompact := by
  cases own with
  | literal closed text =>
      have kept := compact _ (List.mem_singleton_self _)
      cases closed <;> exact kept
  | blockComment closed text =>
      have kept := compact _ (List.mem_singleton_self _)
      cases closed <;> exact kept
  | mark marks => rcases Token.isMark_iff.mp marks with rfl | rfl | rfl | rfl | rfl | rfl <;> trivial
  | lineComment text => trivial
  | emptyBraces gap => trivial

/-- A string or comment is a token of its own. -/
theorem Stands.exists_tokens (stands : piece.Stands rest) (word : List Char) :
    ∃ tokens behind, Token.lexFrom (.code word) (piece.text ++ rest) =
        tokens ++ Token.lexFrom (.code behind) rest ∧
      ((∀ token ∈ tokens, token.IsCompact) → piece.IsCompact) := by
  by_cases gap : ∃ text, piece = blanks text
  · obtain ⟨text, rfl⟩ := gap
    exact ⟨Token.ofWord word, [], Token.lexFrom_code_blanks stands.2.1 stands.1 word rest,
      fun _ => trivial⟩
  · by_cases letter : ∃ character, piece = plain character
    · obtain ⟨character, rfl⟩ := letter
      exact ⟨[], word ++ [character], Token.lexFrom_code_plain stands.1 stands.2 word,
        fun _ => trivial⟩
    · obtain ⟨tokens, own, read⟩ := stands.exists_hasTokens (fun text same => gap ⟨text, same⟩)
        fun character same => letter ⟨character, same⟩
      refine ⟨Token.ofWord word ++ tokens, [], by rw [read, List.append_assoc], fun compact => ?_⟩
      exact own.isCompact fun token among => compact token (List.mem_append_right _ among)

/-- The pieces of a text with compact tokens are compact. -/
theorem AllStand.isCompact {pieces : List Piece} (stand : AllStand pieces) {word : List Char}
    (compact : ∀ token ∈ Token.lexFrom (.code word) (pieces.flatMap text), token.IsCompact) :
    ∀ piece ∈ pieces, piece.IsCompact := by
  induction pieces generalizing word with
  | nil => exact List.forall_mem_nil _
  | cons piece pieces ih =>
      obtain ⟨tokens, behind, read, own⟩ := stand.1.exists_tokens word
      rw [List.flatMap_cons, read] at compact
      rw [List.forall_mem_append] at compact
      exact List.forall_mem_cons.mpr ⟨own compact.1, ih stand.2 compact.2⟩

end Piece

namespace Draft

/-- The laid-out lines of a comment end with ink if none of its lines is blank. -/
theorem endsInked_of_mem_commentLines {comment : List Char}
    (compact : ∀ line ∈ Text.lines comment, ink line ≠ []) :
    ∀ line ∈ commentLines comment, EndsInked line := by
  have trimmed : ∀ line ∈ Text.lines comment, EndsInked (trim line) := by
    intro line member
    refine endsInked_trimEnd fun none => compact line member ?_
    rw [← ink_trim, trim, none, ink_nil]
  intro line member
  unfold commentLines at member
  cases cut : Text.lines comment with
  | nil => simp [cut] at member
  | cons first others =>
      rw [cut] at member trimmed
      rcases List.mem_cons.mp member with rfl | member
      · exact trimmed first (List.mem_cons_self ..)
      · obtain ⟨other, among, rfl⟩ := List.mem_map.mp member
        obtain ⟨pad, _, shape⟩ := commentLine_eq other
        rw [shape]
        exact (trimmed other (List.mem_cons_of_mem _ among)).append pad

theorem endsInked_settledComment {indentation comment : List Char} (nonempty : comment ≠ [])
    (compact : ∀ line ∈ Text.lines comment, ink line ≠ []) :
    EndsInked (settledComment indentation comment) := by
  have ends := endsInked_of_mem_commentLines compact
  have whole : (commentLines comment).rdropWhile
      (fun line => indentation.isEmpty && line.isEmpty) = commentLines comment := by
    rw [List.rdropWhile_eq_self_iff]
    intro lines empty
    simp only [Bool.and_eq_true, List.isEmpty_iff] at empty
    exact (ends _ (List.getLast_mem lines)).ne_nil empty.2
  obtain ⟨first, others, shape⟩ := List.exists_cons_of_ne_nil (commentLines_ne_nil nonempty)
  rw [settledComment, whole, shape]
  rw [shape] at ends
  exact endsInked_intercalate _ ends

end Draft

/-- A compact piece ends with ink, even if it is the last one. -/
theorem Piece.Stands.settlesInked_of_compact {piece : Piece} {rest : List Char}
    (stands : piece.Stands rest) (notBlank : ∀ gap, piece ≠ .blanks gap)
    (compact : piece.IsCompact) : piece.SettlesInked := by
  by_cases comment : ∃ text, piece = .blockComment text
  · obtain ⟨text, rfl⟩ := comment
    exact fun indentation _ => Draft.endsInked_settledComment stands.text_ne_nil compact
  · exact stands.settlesInked_of_noComment notBlank fun text same => comment ⟨text, same⟩

theorem Piece.AllStand.settlesInked_of_compact {pieces : List Piece} (stand : AllStand pieces)
    (compact : ∀ piece ∈ pieces, piece.IsCompact) :
    ∀ piece ∈ pieces, (∀ gap, piece ≠ .blanks gap) → piece.SettlesInked := by
  induction pieces with
  | nil => exact List.forall_mem_nil _
  | cons piece pieces ih =>
      rw [List.forall_mem_cons] at compact ⊢
      exact ⟨fun notBlank => stand.1.settlesInked_of_compact notBlank compact.1,
        ih stand.2 compact.2⟩

/-- Before an empty line nothing stands or a line feed. -/
theorem Text.IsLine.not_endsInked {before line after : List Char}
    (isLine : IsLine before line after) : ¬ EndsInked before := by
  rintro ⟨front, last, rfl, inked⟩
  obtain rfl := isLine.begins last (List.getLast?_concat ..)
  exact absurd inked (by decide)

namespace Layout

/-- How a text is spared blanks. -/
structure TidyLines (text : List Char) : Prop where
  begins : text.head? ≠ some '\n'
  ends : text.getLast? ≠ some '\n'
  /-- No line ends with a blank. -/
  trailing : ∀ {before line after}, text = before ++ line ++ after → IsLine before line after →
    ∀ last ∈ line.getLast?, isBlank last = false
  /-- No empty line follows an empty line. -/
  apart : ∀ {before after}, text = before ++ '\n' :: after → IsLine before [] ('\n' :: after) →
    ¬ IsLine (before ++ ['\n']) [] after
  /-- Empty lines stand outside braces. -/
  outside : ∀ {before after}, text = before ++ after → IsLine before [] after →
    (Context.of before).depth = 0

variable {unit : List Char} {pieces : List Piece} (stand : Piece.AllStand pieces)
  (indents : IsIndentation unit) (compact : ∀ piece ∈ pieces, piece.IsCompact)

include stand indents compact

/-- A layout of compact pieces ends with ink. -/
theorem endsInked_lay (nonempty : (lay unit .start pieces).flatMap Piece.text ≠ []) :
    EndsInked ((lay unit .start pieces).flatMap Piece.text) := by
  have continues := Spot.Continues.textStart.behind indents (stand.settlesInked_of_compact compact)
  rw [List.nil_append] at continues
  exact continues.endsInked nonempty

/-- **Ends of lines.** A line feed stands behind ink, unless it ends a blank line. -/
theorem endsInked_of_lineFeed {start tail : List Char}
    (cut : (lay unit .start pieces).flatMap Piece.text = start ++ '\n' :: tail) :
    EndsInked start ∨
      ∃ front, start = front ++ ['\n'] ∧ EndsInked front ∧ (Context.of start).depth = 0 := by
  obtain ⟨stretch, holds⟩ := exists_stretch cut
  have own := compact stretch.piece stretch.piece_mem
  cases holds.feeds stand indents with
  | string text shape feed inside =>
      rw [shape] at own
      exact absurd feed own
  | comment source shape done line next more lines front back inside =>
      left
      rw [shape] at own
      have ends : ∀ other ∈ done ++ [line], EndsInked other := by
        intro other member
        refine Draft.endsInked_of_mem_commentLines own other (lines.mem ?_)
        rw [List.append_cons]
        exact List.mem_append_left _ member
      obtain ⟨first, others, whole⟩ :=
        List.exists_cons_of_ne_nil (List.append_ne_nil_of_right_ne_nil done (List.cons_ne_nil line []))
      rw [front, whole]
      rw [whole] at ends
      exact (endsInked_intercalate _ ends).append _
  | blankLine inked front back inside => exact .inl (front ▸ inked)
  | line inked front back inside =>
      rcases front with rfl | ⟨rfl, context⟩
      · exact .inl inked
      · exact .inr ⟨_, rfl, inked, congrArg Context.depth context⟩

/-- What stands before the end of a line. -/
theorem endsInked_of_endsLine {front after : List Char}
    (cut : (lay unit .start pieces).flatMap Piece.text = front ++ after) (ends : EndsLine after) :
    front = [] ∨ EndsInked front ∨
      ∃ inner, front = inner ++ ['\n'] ∧ EndsInked inner ∧ (Context.of front).depth = 0 := by
  cases after with
  | nil =>
      rw [List.append_nil] at cut
      by_cases none : front = []
      · exact .inl none
      · rw [← cut] at none ⊢
        exact .inr (.inl (endsInked_lay stand indents compact none))
  | cons next after =>
      obtain rfl := ends next rfl
      exact .inr (endsInked_of_lineFeed stand indents compact cut)

/-- **Blank lines.** What is laid out for compact pieces is spared blanks. -/
theorem tidyLines_lay : TidyLines ((lay unit .start pieces).flatMap Piece.text) where
  begins := by
    intro feed
    obtain ⟨rest, shape⟩ := List.head?_eq_some_iff.mp feed
    have nonempty : (lay unit .start pieces).flatMap Piece.text ≠ [] := by
      rw [shape]
      exact List.cons_ne_nil _ _
    have begins := beginsInked_lay stand indents nonempty
    exact absurd (begins.isBlank_head? _ feed) (by decide)
  ends := by
    intro feed
    obtain ⟨front, shape⟩ := List.getLast?_eq_some_iff.mp feed
    have nonempty : (lay unit .start pieces).flatMap Piece.text ≠ [] := by
      rw [shape]
      exact List.append_ne_nil_of_right_ne_nil _ (List.cons_ne_nil _ _)
    have ends := endsInked_lay stand indents compact nonempty
    exact absurd (ends.isBlank_getLast? _ feed) (by decide)
  trailing := by
    intro before line after cut isLine last member
    obtain ⟨front, rfl⟩ := List.getLast?_eq_some_iff.mp member
    rw [← List.append_assoc before] at cut
    rcases endsInked_of_endsLine stand indents compact cut isLine.ends with
      none | inked | ⟨inner, same, _⟩
    · exact absurd none (List.append_ne_nil_of_right_ne_nil _ (List.cons_ne_nil _ _))
    · exact inked.isBlank_getLast? last (List.getLast?_concat ..)
    · obtain rfl := (List.append_singleton_inj.mp same).2
      exact absurd (List.mem_append_right _ (List.mem_singleton_self _)) isLine.inLine
  apart := by
    intro before after cut first second
    rw [List.append_cons] at cut
    rcases endsInked_of_endsLine stand indents compact cut second.ends with
      none | inked | ⟨inner, same, inked, _⟩
    · exact absurd none (List.append_ne_nil_of_right_ne_nil _ (List.cons_ne_nil _ _))
    · exact absurd (inked.isBlank_getLast? '\n' (List.getLast?_concat ..)) (by decide)
    · obtain ⟨rfl, _⟩ := List.append_singleton_inj.mp same
      exact absurd inked first.not_endsInked
  outside := by
    intro before after cut isLine
    rcases endsInked_of_endsLine stand indents compact cut isLine.ends with
      rfl | inked | ⟨_, _, _, depth⟩
    · rfl
    · exact absurd inked isLine.not_endsInked
    · exact depth

omit stand indents compact

/-- **Blank lines of layouts.** If no string of a source has a line feed in it and no comment a
blank line, then its layout is spared blanks. -/
theorem tidyLines_format (options : LayoutOptions) (source : String)
    (compact : ∀ token ∈ Token.lex source, token.IsCompact) :
    TidyLines (format options source).toList := by
  have stand := Piece.allStand_split source.toList
  rw [Token.lex, ← Piece.flatMap_text_split source.toList] at compact
  rw [toList_format]
  exact tidyLines_lay stand options.isIndentation_indentUnit (stand.isCompact compact)

/-- Blank lines where one may be kept and where not. -/
theorem tidyLines_format_comment :
    let source := "\na\x7b\n\n'b'/* c\n*/\x7d\n\n\nd "
    let laid := "a\x7b\n\t'b'\n\t/* c\n\t */\n\x7d\n\nd"
    (∀ token ∈ Token.lex source, token.IsCompact) ∧ format ⟨true, 4⟩ source = laid ∧
      TidyLines laid.toList := by
  intro source laid
  have compact : ∀ token ∈ Token.lex source, token.IsCompact := by decide +kernel
  have tidy : TidyLines (format ⟨true, 4⟩ source).toList :=
    tidyLines_format ⟨true, 4⟩ source compact
  have formatted : format ⟨true, 4⟩ source = laid := by decide +kernel
  exact ⟨compact, formatted, formatted ▸ tidy⟩

end Layout

end ModelScribe

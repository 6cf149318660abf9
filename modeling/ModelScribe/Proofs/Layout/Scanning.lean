import Mathlib.Logic.Function.Iterate
import ModelScribe.Proofs.Layout.Closing

/-! # Scanning a text

A layout is made in rounds (`ModelScribe.Layout.round`), each of which takes the piece at the cursor
and puts the cursor behind it. A piece is never empty and never goes beyond the text
(`ModelScribe.Piece.exists_at?`), so the cursor comes to the end of every text, behind each string
and comment at the place that is found for its end (`ModelScribe.Layout.scans`).
-/

namespace ModelScribe

namespace Piece

variable {text front rest : List Char} {start : Nat} {quote : Char}

/-- A piece starts at each place of a text. It takes a part of the text, and what follows it is cut
into pieces next. -/
theorem exists_at? (inside : start < text.length) :
    ∃ piece, at? text start = some piece ∧ start < endAt text start ∧
      endAt text start ≤ text.length ∧ piece.text = (text.take (endAt text start)).drop start ∧
      split (text.drop start) = piece :: split (text.drop (endAt text start)) := by
  have stands := List.drop_eq_getElem_cons inside
  generalize text[start] = character at stands
  generalize text.drop (start + 1) = rest at stands
  have found : at? text start = some (first character rest).1 := by
    rw [at?, stands]
  have finish : endAt text start = start + (first character rest).1.text.length := by
    rw [endAt, found]
    rfl
  have whole := text_first_append character rest
  have sizes := congrArg List.length whole
  have shorter := length_first_lt character rest
  have left := congrArg List.length stands
  rw [List.length_append] at sizes
  rw [List.length_drop] at left
  refine ⟨_, found, by omega, by omega, ?_, ?_⟩
  · rw [finish, List.drop_take, stands, ← whole, Nat.add_sub_cancel_left, List.take_left]
  · rw [finish, ← List.drop_drop, stands, ← whole, List.drop_left, whole, Piece.split]

/-- A round at a quote goes through the string. -/
theorem endAt_of_quote (quoted : isQuote quote = true) :
    endAt (front ++ quote :: rest) front.length =
      literalEnd (front ++ quote :: rest) front.length := by
  rw [endAt, at?, List.drop_left, literalEnd_append]
  simp only [first, quoted, if_true, Option.map_some, Option.getD_some, Piece.text,
    List.length_cons]
  omega

/-- A round at the opening of a comment goes through the comment. -/
theorem endAt_of_comment :
    endAt (front ++ '/' :: '*' :: rest) front.length =
      commentEnd (front ++ '/' :: '*' :: rest) front.length := by
  have comment : first '/' ('*' :: rest) =
      (blockComment ('/' :: '*' :: (splitComment rest).1), (splitComment rest).2) := rfl
  rw [endAt, at?, List.drop_left, commentEnd_append]
  simp only [comment, Option.map_some, Option.getD_some, Piece.text, List.length_cons]
  omega

/-- A text has no more pieces than characters. -/
theorem length_split_le (text : List Char) : (split text).length ≤ text.length := by
  fun_induction split text with
  | case1 => exact Nat.le_refl 0
  | case2 character rest ih =>
      have shorter := length_first_lt character rest
      rw [List.length_cons]
      omega

end Piece

namespace Layout

/-- So many rounds as there are pieces left bring the cursor to the end of the text, and no fewer
rounds do. -/
theorem iterate_round {text : List Char} {start : Nat} (within : start ≤ text.length)
    (draft : Draft) :
    (∀ count < (Piece.split (text.drop start)).length,
        ((round text)^[count] (start, draft)).1 < text.length) ∧
      (round text)^[(Piece.split (text.drop start)).length] (start, draft) =
        (text.length, (Piece.split (text.drop start)).foldl Draft.place draft) := by
  generalize left : Piece.split (text.drop start) = pieces
  induction pieces generalizing start draft with
  | nil =>
      have ends : ¬ start < text.length := by
        intro inside
        obtain ⟨piece, -, -, -, -, next⟩ := Piece.exists_at? inside
        rw [left] at next
        cases next
      obtain rfl : start = text.length := by omega
      exact ⟨fun count few => absurd few (Nat.not_lt_zero count), rfl⟩
  | cons piece pieces ih =>
      have inside : start < text.length := by
        by_contra ends
        rw [List.drop_eq_nil_of_le (Nat.le_of_not_lt ends), Piece.split] at left
        cases left
      obtain ⟨next, found, -, bound, -, cut⟩ := Piece.exists_at? inside
      obtain ⟨rfl, others⟩ := List.cons.inj (cut.symm.trans left)
      have step : round text (start, draft) = (Piece.endAt text start, draft.place next) := by
        rw [round, found]
      obtain ⟨fewer, all⟩ := ih bound (draft.place next) others
      constructor
      · intro count few
        cases count with
        | zero => exact inside
        | succ count =>
            rw [Function.iterate_succ_apply, step]
            exact fewer count (Nat.lt_of_succ_lt_succ few)
      · rw [List.length_cons, Function.iterate_succ_apply, step]
        exact all

/-- The cursor and the draft after so many rounds of a layout. -/
def after (options : LayoutOptions) (text : List Char) (rounds : Nat) : Nat × Draft :=
  (round text)^[rounds] (0, { unit := options.indentUnit })

/-- Scanning a text stays within it, goes on, and stops where strings and comments close. -/
structure Scans (text : List Char) : Prop where
  /-- A string ends behind the first place where it may close, or with the text. -/
  literal : ∀ start quote, text[start]? = some quote → Piece.isQuote quote = true →
    start < Piece.literalEnd text start ∧ Piece.literalEnd text start ≤ text.length ∧
      ((∃ place, IsLeast {place | Piece.ClosesLiteral text start place} place ∧
          Piece.literalEnd text start = place + 1) ∨
        (∀ place, ¬ Piece.ClosesLiteral text start place) ∧
          Piece.literalEnd text start = text.length)
  /-- A comment ends at the first place where it may end, or with the text. -/
  comment : ∀ start, text[start]? = some '/' → text[start + 1]? = some '*' →
    IsLeast {finish | Piece.ClosesComment text start finish} (Piece.commentEnd text start) ∨
      (∀ finish, ¬ Piece.ClosesComment text start finish) ∧
        Piece.commentEnd text start = text.length
  /-- From each place of the text the cursor goes on, but not beyond the text, and the piece is what
  stands between. -/
  piece : ∀ start < text.length, start < Piece.endAt text start ∧
    Piece.endAt text start ≤ text.length ∧ ∃ piece, Piece.at? text start = some piece ∧
      piece.text = (text.take (Piece.endAt text start)).drop start
  /-- The cursor goes behind a string and a comment where these end. -/
  ends : ∀ start shown, text[start]? = some shown →
    (Piece.isQuote shown = true → Piece.endAt text start = Piece.literalEnd text start) ∧
      (shown = '/' → text[start + 1]? = some '*' →
        Piece.endAt text start = Piece.commentEnd text start)
  /-- The layout is made in rounds, at most as many as there are characters; in each of them the
  cursor goes on within the text, and the last one brings it to the end. -/
  rounds : ∀ options : LayoutOptions, ∃ count ≤ text.length,
    (∀ earlier < count, (after options text earlier).1 < (after options text (earlier + 1)).1 ∧
        (after options text (earlier + 1)).1 ≤ text.length) ∧
      (after options text count).1 = text.length ∧
        format options (String.ofList text) = String.ofList (after options text count).2.text

/-- In a round that finds a piece, the cursor goes behind it. -/
theorem cursor_after_succ {options : LayoutOptions} {text : List Char} {rounds : Nat}
    (inside : (after options text rounds).1 < text.length) :
    (after options text (rounds + 1)).1 = Piece.endAt text (after options text rounds).1 := by
  obtain ⟨piece, found, -⟩ := Piece.exists_at? inside
  rw [after, Function.iterate_succ_apply', ← after, round, found]

/-- **Scanning.** Whatever a text holds, its strings and comments end where they close or with the
text, and the cursor goes on in every round until it comes to the end. -/
theorem scans (text : List Char) : Scans text where
  literal := by
    intro start quote here quoted
    obtain ⟨front, rest, rfl, rfl⟩ := Piece.exists_eq_append_cons here
    have whole := congrArg List.length (Piece.splitLiteral_append quote rest)
    rw [List.length_append] at whole
    refine ⟨?_, ?_, Piece.literalEnd_spec quoted⟩
    · rw [Piece.literalEnd_append]
      omega
    · rw [Piece.literalEnd_append, List.length_append, List.length_cons]
      omega
  comment := by
    intro start slash star
    obtain ⟨front, rest, rfl, rfl⟩ := Piece.exists_eq_append_cons_cons slash star
    exact Piece.commentEnd_spec
  piece := by
    intro start inside
    obtain ⟨piece, found, onward, bound, slice, -⟩ := Piece.exists_at? inside
    exact ⟨onward, bound, piece, found, slice⟩
  ends := by
    intro start shown here
    constructor
    · intro quoted
      obtain ⟨front, rest, rfl, rfl⟩ := Piece.exists_eq_append_cons here
      exact Piece.endAt_of_quote quoted
    · rintro rfl star
      obtain ⟨front, rest, rfl, rfl⟩ := Piece.exists_eq_append_cons_cons here star
      exact Piece.endAt_of_comment
  rounds := by
    intro options
    obtain ⟨fewer, all⟩ := iterate_round (Nat.zero_le text.length) { unit := options.indentUnit }
    rw [List.drop_zero] at fewer all
    refine ⟨(Piece.split text).length, Piece.length_split_le text, ?_, ?_, ?_⟩
    · intro earlier few
      have inside := fewer earlier few
      obtain ⟨piece, -, onward, bound, -⟩ := Piece.exists_at? inside
      rw [cursor_after_succ inside]
      exact ⟨onward, bound⟩
    · rw [after, all]
    · rw [after, all, format, String.toList_ofList]
      rfl

end Layout

end ModelScribe

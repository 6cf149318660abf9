import Mathlib.Algebra.Group.Nat.Even
import Mathlib.Order.Bounds.Defs
import ModelScribe.Layout.Scan
import ModelScribe.Proofs.Layout.Standing

/-! # Where strings and comments close

A string ends behind the first of its quotes that an even number of backslashes stands before
(`ModelScribe.Piece.literalEnd_spec`), and a comment behind the first closing mark that shares no
character with the opening one (`ModelScribe.Piece.commentEnd_spec`). Where nothing closes them,
they end with the text. The loops find these ends where the pieces are split off
(`ModelScribe.Piece.literalFrom_append`, `ModelScribe.Piece.commentFrom_append`).
-/

namespace ModelScribe

namespace Piece

/-- A character at a place stands behind as many characters. -/
theorem exists_eq_append_cons {text : List Char} {start : Nat} {shown : Char}
    (here : text[start]? = some shown) :
    ∃ front rest, text = front ++ shown :: rest ∧ front.length = start := by
  obtain ⟨inside, rfl⟩ := List.getElem?_eq_some_iff.mp here
  refine ⟨text.take start, text.drop (start + 1), ?_, ?_⟩
  · rw [List.getElem_cons_drop, List.take_append_drop]
  · rw [List.length_take, Nat.min_eq_left (Nat.le_of_lt inside)]

/-- Two characters at a place stand behind as many characters. -/
theorem exists_eq_append_cons_cons {text : List Char} {start : Nat} {shown next : Char}
    (here : text[start]? = some shown) (behind : text[start + 1]? = some next) :
    ∃ front rest, text = front ++ shown :: next :: rest ∧ front.length = start := by
  obtain ⟨front, others, rfl, rfl⟩ := exists_eq_append_cons here
  rw [List.getElem?_append_right (Nat.le_succ _), Nat.succ_sub (Nat.le_refl _), Nat.sub_self,
    List.getElem?_cons_succ, ← List.head?_eq_getElem?] at behind
  obtain ⟨rest, rfl⟩ := List.head?_eq_some_iff.mp behind
  exact ⟨front, rest, rfl, rfl⟩

/-- What ends with a mark ends where the mark stands first, if it would have ended there. -/
theorem length_le_of_first_mark (mark : List Char) {body after before more : List Char}
    (whole : body ++ mark ++ after = before ++ (mark ++ more))
    (first : ∀ others, body ++ mark = before ++ (mark ++ others) → others = []) :
    body.length ≤ before.length := by
  by_contra earlier
  have shorter : (before ++ mark).length ≤ (body ++ mark).length := by
    rw [List.length_append, List.length_append]
    omega
  have again : before ++ mark <+: body ++ mark ++ after := by
    rw [whole, ← List.append_assoc]
    exact List.prefix_append _ _
  obtain ⟨others, ends⟩ :=
    List.prefix_of_prefix_length_le again (List.prefix_append _ _) shorter
  rw [List.append_assoc] at ends
  obtain rfl := first others ends.symm
  rw [List.append_nil] at ends
  rw [List.append_cancel_right ends] at earlier
  exact earlier (Nat.le_refl _)

/-- The number of backslashes at the end of a text. -/
def backslashes (text : List Char) : Nat :=
  (text.reverse.takeWhile (· == '\\')).length

theorem backslashes_le_length (text : List Char) : backslashes text ≤ text.length := by
  have shorter := (List.takeWhile_prefix (· == '\\') (l := text.reverse)).length_le
  rwa [List.length_reverse] at shorter

/-- A character in front counts if it is a backslash and only backslashes follow. -/
theorem backslashes_cons (character : Char) (rest : List Char) :
    backslashes (character :: rest) =
      if backslashes rest = rest.length then
        if character = '\\' then rest.length + 1 else rest.length
      else backslashes rest := by
  rw [backslashes, List.reverse_cons, List.takeWhile_append, List.length_reverse, ← backslashes]
  by_cases all : backslashes rest = rest.length
  · rw [if_pos all, if_pos all, List.length_append, List.length_reverse]
    by_cases slash : character = '\\' <;> simp [slash]
  · rw [if_neg all, if_neg all, backslashes]

/-- A backslash and the character that it takes with it count for nothing. -/
theorem even_backslashes_escape (escaped : Char) (rest : List Char) :
    Even (backslashes ('\\' :: escaped :: rest)) ↔ Even (backslashes rest) := by
  have bound := backslashes_le_length rest
  by_cases all : backslashes rest = rest.length
  · by_cases slash : escaped = '\\'
    · simp [backslashes_cons, all, slash, Nat.even_add_one]
    · simp [backslashes_cons, all, slash]
  · have fewer : backslashes rest ≠ rest.length + 1 := by omega
    simp [backslashes_cons, all, fewer]

/-- Another character in front does not count. -/
theorem backslashes_cons_of_ne {character : Char} (other : character ≠ '\\') (rest : List Char) :
    backslashes (character :: rest) = backslashes rest := by
  rw [backslashes_cons, if_neg other]
  split
  · next all => exact all.symm
  · rfl

/-- A closed string ends with its quote behind an even number of backslashes. -/
theorem LiteralInside.exists_eq_concat {quote : Char} {inside : List Char}
    (belongs : LiteralInside quote true inside) :
    ∃ body, inside = body ++ [quote] ∧ Even (backslashes body) := by
  generalize closes : true = closed at belongs
  induction belongs with
  | nil => exact absurd closes (by decide)
  | backslash => exact absurd closes (by decide)
  | quote => exact ⟨[], rfl, Even.zero⟩
  | escape escaped belongs ih =>
      obtain ⟨body, rfl, even⟩ := ih closes
      exact ⟨'\\' :: escaped :: body, rfl, (even_backslashes_escape escaped body).mpr even⟩
  | @character _ character _ other unescaped belongs ih =>
      obtain ⟨body, rfl, even⟩ := ih closes
      exact ⟨character :: body, rfl, (backslashes_cons_of_ne unescaped body).symm ▸ even⟩

/-- A quote behind an even number of backslashes is where a string ends. -/
theorem LiteralInside.closes_of_even {quote : Char} {closed : Bool} {before after : List Char}
    (proper : quote ≠ '\\') (belongs : LiteralInside quote closed (before ++ quote :: after))
    (even : Even (backslashes before)) : closed = true ∧ after = [] := by
  generalize whole : before ++ quote :: after = inside at belongs
  induction belongs generalizing before with
  | nil => simp at whole
  | backslash =>
      rcases List.append_eq_cons_iff.mp whole with ⟨rfl, same⟩ | ⟨rest, rfl, ends⟩
      · exact absurd (List.cons.inj same).1 proper
      · simp at ends
  | quote =>
      rcases List.append_eq_cons_iff.mp whole with ⟨rfl, same⟩ | ⟨rest, rfl, ends⟩
      · exact ⟨rfl, (List.cons.inj same).2⟩
      · simp at ends
  | escape escaped belongs ih =>
      rcases List.append_eq_cons_iff.mp whole with ⟨rfl, same⟩ | ⟨rest, rfl, ends⟩
      · exact absurd (List.cons.inj same).1 proper
      · rcases List.append_eq_cons_iff.mp ends.symm with ⟨rfl, same⟩ | ⟨body, rfl, more⟩
        · exact absurd even (by decide)
        · exact ih ((even_backslashes_escape escaped body).mp even) more.symm
  | character other unescaped belongs ih =>
      rcases List.append_eq_cons_iff.mp whole with ⟨rfl, same⟩ | ⟨rest, rfl, ends⟩
      · exact absurd (List.cons.inj same).1.symm other
      · rw [backslashes_cons_of_ne unescaped] at even
        exact ih even ends.symm

/-- A place where the string that starts at a place of a text may close: its quote stands there
again, behind an even number of backslashes, counted back as far as to the first quote. -/
def ClosesLiteral (text : List Char) (start place : Nat) : Prop :=
  start < place ∧ place < text.length ∧ text[place]? = text[start]? ∧
    Even (backslashes ((text.take place).drop (start + 1)))

variable {front rest : List Char} {quote : Char} {place finish : Nat}

/-- The loop through a string steps over what is escaped and ends behind the quote. -/
theorem literalFrom_cons (front rest : List Char) (quote character : Char) :
    literalFrom (front ++ character :: rest) quote front.length =
      if character = '\\' then literalFrom (front ++ character :: rest) quote (front.length + 2)
      else if character = quote then front.length + 1
      else literalFrom (front ++ character :: rest) quote (front.length + 1) := by
  rw [literalFrom, dif_pos (by simp)]
  simp only [List.getElem_append_right (Nat.le_refl _), Nat.sub_self, List.getElem_cons_zero]

theorem literalFrom_of_le {text : List Char} (outside : text.length ≤ place) (quote : Char) :
    literalFrom text quote place = text.length := by
  rw [literalFrom, dif_neg (Nat.not_lt_of_le outside)]

/-- A character that neither escapes another nor ends the text as one is no backslash. -/
theorem ne_backslash {character : Char} {rest : List Char}
    (alone : character = '\\' → rest = [] → False)
    (escapes : ∀ escaped more, character = '\\' → rest = escaped :: more → False) :
    character ≠ '\\' := by
  intro same
  cases rest with
  | nil => exact alone same rfl
  | cons escaped more => exact escapes escaped more same rfl

/-- Place by place a string is found to end where it is split off. -/
theorem literalFrom_append (front rest : List Char) (quote : Char) :
    literalFrom (front ++ rest) quote front.length =
      front.length + (splitLiteral quote rest).1.length := by
  -- What the loop has passed joins the text in front.
  fun_induction splitLiteral quote rest generalizing front with
  | case1 =>
      rw [List.append_nil]
      exact literalFrom_of_le (Nat.le_refl _) quote
  | case2 =>
      rw [literalFrom_cons, if_pos rfl, literalFrom_of_le (by simp)]
      simp
  | case3 escaped rest inside after split ih =>
      have behind := ih (front ++ ['\\', escaped])
      rw [List.length_append, List.append_assoc, split] at behind
      rw [literalFrom_cons, if_pos rfl]
      refine behind.trans ?_
      simp only [List.length_cons, List.length_nil]
      omega
  | case4 rest alone escapes =>
      rw [literalFrom_cons, if_neg (ne_backslash alone escapes), if_pos rfl]
      rfl
  | case5 character rest alone escapes other inside after split ih =>
      have behind := ih (front ++ [character])
      rw [List.length_append, List.append_assoc, split] at behind
      rw [literalFrom_cons, if_neg (ne_backslash alone escapes), if_neg other]
      refine behind.trans ?_
      simp only [List.length_cons, List.length_nil]
      omega

theorem literalEnd_append :
    literalEnd (front ++ quote :: rest) front.length =
      front.length + 1 + (splitLiteral quote rest).1.length := by
  have found := literalFrom_append (front ++ [quote]) rest quote
  rw [List.length_append, List.append_assoc] at found
  rw [literalEnd, dif_pos (by simp)]
  simpa using found

/-- What stands between a quote and a later place. -/
theorem between_append (front rest : List Char) (quote : Char) (size : Nat) :
    ((front ++ quote :: rest).take (front.length + 1 + size)).drop (front.length + 1) =
      rest.take size := by
  have behind : (front ++ quote :: rest).drop (front.length + 1) = rest := by
    rw [← List.drop_drop, List.drop_left, List.drop_one, List.tail_cons]
  rw [List.drop_take, behind, Nat.add_sub_cancel_left]

/-- A string may close where its quote stands behind an even number of backslashes. -/
theorem closesLiteral_append :
    ClosesLiteral (front ++ quote :: rest) front.length place ↔
      ∃ before after, rest = before ++ quote :: after ∧
        place = front.length + 1 + before.length ∧ Even (backslashes before) := by
  have opens : (front ++ quote :: rest)[front.length]? = some quote := by simp
  have shown : ∀ size, (front ++ quote :: rest)[front.length + 1 + size]? = rest[size]? := by
    intro size
    rw [List.getElem?_append_right (by omega), show front.length + 1 + size - front.length =
      size + 1 by omega, List.getElem?_cons_succ]
  rw [ClosesLiteral, opens]
  constructor
  · rintro ⟨behind, -, stands, even⟩
    obtain ⟨size, rfl⟩ := Nat.exists_eq_add_of_le (Nat.succ_le_of_lt behind)
    rw [Nat.succ_eq_add_one, shown] at stands
    rw [Nat.succ_eq_add_one, between_append] at even
    obtain ⟨short, same⟩ := List.getElem?_eq_some_iff.mp stands
    refine ⟨rest.take size, rest.drop (size + 1), ?_, ?_, even⟩
    · rw [← same, List.getElem_cons_drop, List.take_append_drop]
    · rw [List.length_take, Nat.min_eq_left (Nat.le_of_lt short)]
  · rintro ⟨before, after, rfl, rfl, even⟩
    refine ⟨by omega, ?_, ?_, ?_⟩
    · simp only [List.length_append, List.length_cons]
      omega
    · rw [shown]
      simp
    · rwa [between_append, List.take_left]

/-- **Strings.** A string ends behind the first place where it may close, or with the text. -/
theorem literalEnd_spec (quoted : isQuote quote = true) :
    (∃ place, IsLeast {place | ClosesLiteral (front ++ quote :: rest) front.length place} place ∧
        literalEnd (front ++ quote :: rest) front.length = place + 1) ∨
      (∀ place, ¬ ClosesLiteral (front ++ quote :: rest) front.length place) ∧
        literalEnd (front ++ quote :: rest) front.length = (front ++ quote :: rest).length := by
  have proper : quote ≠ '\\' := by
    rintro rfl
    exact absurd quoted (by decide)
  have whole := splitLiteral_append quote rest
  obtain ⟨closed, belongs, last⟩ := inside_splitLiteral quote rest
  rw [literalEnd_append]
  generalize (splitLiteral quote rest).1 = inside at whole belongs
  generalize (splitLiteral quote rest).2 = after at whole last
  cases closed with
  | true =>
      obtain ⟨body, rfl, even⟩ := belongs.exists_eq_concat
      refine .inl ⟨front.length + 1 + body.length, ⟨?_, ?_⟩, ?_⟩
      · exact closesLiteral_append.mpr ⟨body, after, by rw [← whole]; simp, rfl, even⟩
      · intro place closes
        obtain ⟨before, more, split, rfl, evenBefore⟩ := closesLiteral_append.mp closes
        have first := length_le_of_first_mark [quote] (whole.trans split) fun others ends =>
          (LiteralInside.closes_of_even proper (ends ▸ belongs) evenBefore).2
        omega
      · rw [List.length_append, List.length_singleton]
        omega
  | false =>
      obtain rfl := last rfl
      rw [List.append_nil] at whole
      subst whole
      refine .inr ⟨?_, ?_⟩
      · intro place closes
        obtain ⟨before, more, rfl, -, even⟩ := closesLiteral_append.mp closes
        exact absurd (belongs.closes_of_even proper even).1 (by decide)
      · rw [List.length_append, List.length_cons]
        omega

/-- A string that ends in a backslash has no place to close. -/
example : literalEnd ['"', 'a', '\\'] 0 = 3 := by cbv

/-- A closed comment ends with its closing mark. -/
theorem CommentInside.exists_eq_append {inside : List Char}
    (belongs : CommentInside true inside) : ∃ body, inside = body ++ ['*', '/'] := by
  generalize closes : true = closed at belongs
  induction belongs with
  | nil => exact absurd closes (by decide)
  | mark => exact ⟨[], rfl⟩
  | @character _ character _ _ _ ih =>
      obtain ⟨body, rfl⟩ := ih closes
      exact ⟨character :: body, rfl⟩

/-- A closing mark is where a comment ends. -/
theorem CommentInside.closes_of_mark {closed : Bool} {before after : List Char}
    (belongs : CommentInside closed (before ++ '*' :: '/' :: after)) :
    closed = true ∧ after = [] := by
  generalize whole : before ++ '*' :: '/' :: after = inside at belongs
  induction belongs generalizing before with
  | nil => simp at whole
  | mark =>
      have size := congrArg List.length whole
      simp only [List.length_append, List.length_cons, List.length_nil] at size
      exact ⟨rfl, List.length_eq_zero_iff.mp (by omega)⟩
  | character unmarked belongs ih =>
      rcases List.append_eq_cons_iff.mp whole with ⟨rfl, same⟩ | ⟨body, rfl, ends⟩
      · exact absurd ⟨after, same.symm⟩ unmarked
      · exact ih ends.symm

/-- A place where the comment that starts at a place of a text may end: behind a closing mark that
shares no character with the opening one. -/
def ClosesComment (text : List Char) (start finish : Nat) : Prop :=
  start + 4 ≤ finish ∧ text[finish - 2]? = some '*' ∧ text[finish - 1]? = some '/'

/-- What stands behind the opening of a comment. -/
theorem drop_slash_star (front rest : List Char) :
    (front ++ '/' :: '*' :: rest).drop (front.length + 2) = rest := by
  rw [← List.drop_drop, List.drop_left]
  rfl

/-- A comment may close behind a star and a slash that follow its opening. -/
theorem closesComment_append :
    ClosesComment (front ++ '/' :: '*' :: rest) front.length finish ↔
      ∃ before after, rest = before ++ '*' :: '/' :: after ∧
        finish = front.length + 4 + before.length := by
  have shown : ∀ size,
      (front ++ '/' :: '*' :: rest)[front.length + 2 + size]? = rest[size]? := by
    intro size
    rw [← List.getElem?_drop, drop_slash_star]
  rw [ClosesComment]
  constructor
  · rintro ⟨behind, star, slash⟩
    obtain ⟨size, rfl⟩ := Nat.exists_eq_add_of_le behind
    rw [show front.length + 4 + size - 2 = front.length + 2 + size by omega, shown] at star
    rw [show front.length + 4 + size - 1 = front.length + 2 + (size + 1) by omega, shown] at slash
    obtain ⟨_, isStar⟩ := List.getElem?_eq_some_iff.mp star
    obtain ⟨short, isSlash⟩ := List.getElem?_eq_some_iff.mp slash
    refine ⟨rest.take size, rest.drop (size + 2), ?_, ?_⟩
    · rw [← isSlash, List.getElem_cons_drop, ← isStar, List.getElem_cons_drop,
        List.take_append_drop]
    · rw [List.length_take, Nat.min_eq_left (by omega)]
  · rintro ⟨before, after, rfl, rfl⟩
    refine ⟨by omega, ?_, ?_⟩
    · rw [show front.length + 4 + before.length - 2 = front.length + 2 + before.length by omega,
        shown]
      simp
    · rw [show front.length + 4 + before.length - 1 = front.length + 2 + (before.length + 1) by
        omega, shown]
      simp

/-- Place by place a comment is found to end where it is split off. -/
theorem commentFrom_append (front rest : List Char) :
    commentFrom (front ++ rest) front.length =
      front.length + (splitComment rest).1.length := by
  fun_induction splitComment rest generalizing front with
  | case1 =>
      rw [commentFrom, dif_neg (by simp)]
      simp
  | case2 rest =>
      rw [commentFrom, dif_pos (by simp), if_pos (by simp)]
      rfl
  | case3 character rest unmarked inside after split ih =>
      have behind := ih (front ++ [character])
      rw [List.length_append, List.append_assoc, split] at behind
      rw [commentFrom]
      cases rest with
      | nil =>
          obtain rfl : inside = [] := congrArg Prod.fst split.symm
          rw [dif_neg (by simp)]
          simp
      | cons next more =>
          have unclosed : ¬ (character = '*' ∧ next = '/') :=
            fun marked => unmarked more marked.1 (congrArg (· :: more) marked.2)
          rw [dif_pos (by simp), if_neg (by simpa using unclosed)]
          refine behind.trans ?_
          simp only [List.length_cons, List.length_nil]
          omega

theorem commentEnd_append :
    commentEnd (front ++ '/' :: '*' :: rest) front.length =
      front.length + 2 + (splitComment rest).1.length := by
  have found := commentFrom_append (front ++ ['/', '*']) rest
  rw [List.length_append, List.append_assoc] at found
  exact found

/-- **Comments.** A comment ends at the first place where it may end, or with the text. -/
theorem commentEnd_spec :
    IsLeast {finish | ClosesComment (front ++ '/' :: '*' :: rest) front.length finish}
        (commentEnd (front ++ '/' :: '*' :: rest) front.length) ∨
      (∀ finish, ¬ ClosesComment (front ++ '/' :: '*' :: rest) front.length finish) ∧
        commentEnd (front ++ '/' :: '*' :: rest) front.length =
          (front ++ '/' :: '*' :: rest).length := by
  have whole := splitComment_append rest
  obtain ⟨closed, belongs, last⟩ := inside_splitComment rest
  rw [commentEnd_append]
  generalize (splitComment rest).1 = inside at whole belongs
  generalize (splitComment rest).2 = after at whole last
  cases closed with
  | true =>
      obtain ⟨body, rfl⟩ := belongs.exists_eq_append
      refine .inl ⟨closesComment_append.mpr ⟨body, after, by rw [← whole]; simp, ?_⟩, ?_⟩
      · simp only [List.length_append, List.length_cons, List.length_nil]
        omega
      · intro finish closes
        obtain ⟨before, more, split, rfl⟩ := closesComment_append.mp closes
        have first := length_le_of_first_mark ['*', '/'] (whole.trans split) fun others ends =>
          (CommentInside.closes_of_mark (ends ▸ belongs)).2
        simp only [List.length_append, List.length_cons, List.length_nil]
        omega
  | false =>
      obtain rfl := last rfl
      rw [List.append_nil] at whole
      subst whole
      refine .inr ⟨?_, ?_⟩
      · intro finish closes
        obtain ⟨before, more, rfl, -⟩ := closesComment_append.mp closes
        exact absurd belongs.closes_of_mark.1 (by decide)
      · simp only [List.length_append, List.length_cons]
        omega

/-- The star of an opening mark closes no comment. -/
example : commentEnd ['/', '*', '/'] 0 = 3 := by cbv

end Piece

end ModelScribe

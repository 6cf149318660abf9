import ModelScribe.Proofs.Json.Locality

/-! # The numbers of a JSON text

Further digits behind a number would belong to it, so that a number may be another one
where another text follows. But it is a part of its text
(`ModelScribe.Json.local_number`).
-/

namespace ModelScribe

namespace JsonNumber

variable {cursor behind : Cursor} {number : JsonNumber} {negative : Bool} {significand : Nat}

theorem skipDigits_suffix (cursor : Cursor) : cursor.skipDigits.rest <:+ cursor.rest := by
  rw [Cursor.skipDigits, Cursor.skipFrom_eq]
  exact List.dropWhile_suffix _

/-- What stands behind a character is the end of what stood there. -/
theorem advance_suffix (cursor : Cursor) : cursor.advance.rest <:+ cursor.rest := by
  cases stands : cursor.rest with
  | nil => simp [Cursor.advance, stands]
  | cons first rest =>
      rw [Cursor.advance_of_cons stands]
      exact List.suffix_cons first rest

/-- Putting a number together reads nothing. -/
theorem ofParts_eq_ok {power : Int}
    (read : ofParts negative significand power cursor = .ok (number, behind)) :
    cursor = behind := by
  rw [ofParts] at read
  split at read
  · cases read
  · exact (Prod.mk.inj (Except.ok.inj read)).2

/-- What stands behind an exponent is the end of what stood there. -/
theorem readExponent_suffix {power : Int}
    (read : readExponent negative significand power cursor = .ok (number, behind)) :
    behind.rest <:+ cursor.rest := by
  unfold readExponent at read
  split at read
  next down digits signed =>
    have unsigned : digits.rest <:+ cursor.rest := by
      split at signed
      · exact (Prod.mk.inj signed).2 ▸ advance_suffix cursor
      · exact (Prod.mk.inj signed).2 ▸ advance_suffix cursor
      · exact (Prod.mk.inj signed).2 ▸ List.suffix_rfl
    refine (?_ : _ <:+ digits.rest).trans unsigned
    split at read
    · cases read
    · split at read
      · dsimp only at read
        split at read
        · exact ofParts_eq_ok read ▸ skipDigits_suffix digits
        · split at read
          · cases read
          · exact (Prod.mk.inj (Except.ok.inj read)).2 ▸ skipDigits_suffix digits
      · cases read

/-- What stands behind a fraction is the end of what stood there. -/
theorem readFraction_suffix {power : Int}
    (read : readFraction negative significand power cursor = .ok (number, behind)) :
    behind.rest <:+ cursor.rest := by
  refine (?_ : _ <:+ cursor.skipDigits.rest).trans (skipDigits_suffix cursor)
  unfold readFraction at read
  dsimp only at read
  split at read
  · cases read
  · split at read
    · exact (readExponent_suffix read).trans (advance_suffix _)
    · exact (readExponent_suffix read).trans (advance_suffix _)
    · exact ofParts_eq_ok read ▸ List.suffix_rfl

/-- What stands behind a number is the end of what stood there. -/
theorem readAfterWhole_suffix {dropped : Nat}
    (read : readAfterWhole negative significand dropped cursor = .ok (number, behind)) :
    behind.rest <:+ cursor.rest := by
  rw [readAfterWhole] at read
  split at read
  · exact (readFraction_suffix read).trans (advance_suffix _)
  · exact (readExponent_suffix read).trans (advance_suffix _)
  · exact (readExponent_suffix read).trans (advance_suffix _)
  · split at read
    · exact (Prod.mk.inj (Except.ok.inj read)).2 ▸ List.suffix_rfl
    · exact ofParts_eq_ok read ▸ List.suffix_rfl

/-- A number takes its first character at least. -/
theorem read_suffix (found : read negative cursor = .ok (number, behind)) :
    ∃ first rest, cursor.rest = first :: rest ∧ behind.rest <:+ rest := by
  rw [read] at found
  split at found
  · cases found
  · next rest stands =>
      dsimp only at found
      split at found
      · cases found
      · have whole := readAfterWhole_suffix found
        rw [Cursor.advance_of_cons stands] at whole
        exact ⟨'0', rest, stands, whole⟩
  · next first rest plain stands =>
      split at found
      · next digit =>
          have whole := readAfterWhole_suffix found
          rw [Cursor.skipDigits, Cursor.skipFrom_eq, stands,
            List.dropWhile_cons_of_pos digit] at whole
          exact ⟨first, rest, stands, whole.trans (List.dropWhile_suffix _)⟩
      · cases found

/-- A number is a part of the text, though further digits may belong to it. -/
theorem local_read (negative : Bool) (number : JsonNumber) :
    Json.Local False 1 fun cursor behind => read negative cursor = .ok (number, behind) := by
  intro cursor behind found
  obtain ⟨first, rest, stands, taken, split⟩ := read_suffix found
  exact ⟨first :: taken, by simp, by rw [stands, ← split, List.cons_append], False.elim⟩

end JsonNumber

namespace Json

/-- A number, behind its sign if it has one. -/
def Number (number : JsonNumber) (cursor behind : Cursor) : Prop :=
  Relation.Comp (Mark '-') (fun cursor behind => JsonNumber.read true cursor = .ok (number, behind))
      cursor behind ∨
    (∃ digit rest, cursor.skipGap.rest = digit :: rest ∧ digit.isDigit = true) ∧
      JsonNumber.read false cursor.skipGap = .ok (number, behind)

/-- A number is at least one character long, and local up to what may go on with it. -/
theorem local_number (number : JsonNumber) : Local False 1 (Number number) := by
  rintro cursor behind (negative | ⟨-, positive⟩)
  · obtain ⟨taken, long, split, -⟩ :=
      ((local_mark '-').comp (JsonNumber.local_read true number)) _ _ negative
    exact ⟨taken, by omega, split, False.elim⟩
  · obtain ⟨taken, long, split, -⟩ := JsonNumber.local_read false number _ _ positive
    refine ⟨cursor.rest.takeWhile Cursor.isGap ++ taken, by simp; omega, ?_, False.elim⟩
    rw [List.append_assoc, ← split, Cursor.skipGap_eq]
    exact List.takeWhile_append_dropWhile.symm

end Json

end ModelScribe

import ModelScribe.Filter.Value
import ModelScribe.Proofs.Json.PointerSelection
import ModelScribe.Proofs.Json.Reading

/-! # Printed tokens are read again

A text spells what stands between two places if that stands there wherever the text comes next and
something follows that may follow it (`ModelScribe.Json.Spells`). Texts one behind the other spell
one thing behind the other (`ModelScribe.Json.Spells.append`). Characters and strings are read back
whatever follows (`ModelScribe.JsonString.spells_quoted`), but a number must not go on behind its
digits (`ModelScribe.JsonNumber.spells_integer`).
-/

namespace ModelScribe

namespace Json

/-- A text spells what stands between two places: wherever it comes next, and what is allowed to
follow it follows, that stands between the place before the text and a place behind it. -/
def Spells (text : List Char) (Follows : List Char → Prop) (Between : Cursor → Cursor → Prop) :
    Prop :=
  ∀ cursor rest, cursor.rest = text ++ rest → Follows rest →
    ∃ behind, behind.rest = rest ∧ Between cursor behind

/-- Whatever follows. -/
def Anything (_ : List Char) : Prop := True

namespace Spells

variable {text more : List Char} {Follows Behind : List Char → Prop}
  {First Next : Cursor → Cursor → Prop}

/-- Two texts, one behind the other. -/
theorem append (first : Spells text Follows First) (next : Spells more Behind Next)
    (onward : ∀ rest, Behind rest → Follows (more ++ rest)) :
    Spells (text ++ more) Behind (Relation.Comp First Next) := by
  intro cursor rest stands allowed
  rw [List.append_assoc] at stands
  obtain ⟨middle, left, between⟩ := first cursor (more ++ rest) stands (onward rest allowed)
  obtain ⟨behind, ends, others⟩ := next middle rest left allowed
  exact ⟨behind, ends, middle, between, others⟩

/-- A text that does not care what follows, and another behind it. -/
theorem before (first : Spells text Anything First) (next : Spells more Behind Next) :
    Spells (text ++ more) Behind (Relation.Comp First Next) :=
  first.append next fun _ _ => trivial

theorem weaken (spells : Spells text Anything First) : Spells text Follows First :=
  fun cursor rest stands _ => spells cursor rest stands trivial

/-- What is spelled for a part is spelled for what the part implies. -/
theorem imp (spells : Spells text Follows First)
    (implies : ∀ {cursor behind}, First cursor behind → Next cursor behind) :
    Spells text Follows Next := by
  intro cursor rest stands allowed
  obtain ⟨behind, ends, between⟩ := spells cursor rest stands allowed
  exact ⟨behind, ends, implies between⟩

end Spells

/-- A letter is spelled by itself. -/
theorem spells_letter (letter : Char) : Spells [letter] Anything (Letter letter) := by
  intro cursor rest stands _
  refine ⟨cursor.advance, ?_, (letter_iff stands).mpr ⟨rfl, rfl⟩⟩
  rw [Cursor.advance_of_cons stands]
  rfl

/-- A mark is spelled by itself. -/
theorem spells_mark (mark : Char) (solid : Cursor.isGap mark = false) :
    Spells [mark] Anything (Mark mark) := by
  intro cursor rest stands allowed
  rw [show Mark mark = fun cursor behind => Letter mark cursor.skipGap behind from rfl]
  dsimp only
  rw [Cursor.skipGap_of_cons stands solid]
  exact spells_letter mark cursor rest stands allowed

theorem spells_word (word : List Char) : Spells word Anything (Word word) :=
  fun cursor rest stands _ =>
    ⟨⟨rest, word.foldl Position.after cursor.position⟩, rfl, word_iff.mpr ⟨stands, rfl⟩⟩

end Json

namespace JsonString

open Json

variable {character : Char}

/-- A hexadecimal digit is read as the number that it is written for. -/
theorem hexValue?_digitChar {value : Nat} (small : value < 16) :
    hexValue? (Nat.digitChar value) = some value := by
  have every : ∀ value < 16, hexValue? (Nat.digitChar value) = some value := by decide
  exact every value small

/-- The number of an ASCII character is read back from its escape. -/
theorem spells_numbered (ascii : character.toNat < 128) :
    Spells (numbered character) Anything (Character character) := by
  have denotes : hexUnit? ['0', '0', Nat.digitChar (character.toNat / 16),
      Nat.digitChar (character.toNat % 16)] = some character.toNat := by
    have zero : hexValue? '0' = some 0 := rfl
    have high := hexValue?_digitChar (show character.toNat / 16 < 16 by omega)
    have low := hexValue?_digitChar (show character.toNat % 16 < 16 by omega)
    simp only [hexUnit?, zero, high, low, Option.bind_eq_bind, Option.bind_some, Option.pure_def,
      Option.some.injEq]
    omega
  have notLow : isLowUnit character.toNat = false := by
    rw [isLowUnit, Bool.and_eq_false_iff]
    exact .inl (decide_eq_false (by omega))
  have notHigh : isHighUnit character.toNat = false := by
    rw [isHighUnit, Bool.and_eq_false_iff]
    exact .inl (decide_eq_false (by omega))
  have codePoint : Spells _ Anything fun cursor behind =>
      readCodePoint cursor = .ok (character, behind) :=
    (spells_word _).imp fun word => readCodePoint_eq_ok.mpr ⟨character.toNat, notLow,
      .inl ⟨⟨notHigh, Char.ofNat_toNat character⟩, unit_iff.mpr ⟨_, denotes, word⟩⟩⟩
  have escape : Spells _ Anything (Escape character) :=
    ((spells_letter 'u').before codePoint).imp fun escaped => escape_iff.mpr (.inl escaped)
  exact ((spells_letter '\\').before escape).imp .inr

/-- A character is read back from the letter that stands for it. -/
theorem spells_lettered {letter : Char} (denotes : escapedChar? letter = some character) :
    Spells ['\\', letter] Anything (Character character) := by
  have escape : Spells [letter] Anything (Escape character) :=
    (spells_letter letter).imp fun shown => escape_iff.mpr (.inr ⟨letter, denotes, shown⟩)
  exact ((spells_letter '\\').before escape).imp .inr

/-- A character is read back from the way that documents write it. -/
theorem spells_written (character : Char) :
    Spells (written character) Anything (Character character) := by
  unfold written
  split_ifs with quote backslash lineFeed carriage tab backspace formFeed control
  · subst quote
    exact spells_lettered rfl
  · subst backslash
    exact spells_lettered rfl
  · exact spells_lettered (lineFeed ▸ rfl)
  · exact spells_lettered (carriage ▸ rfl)
  · exact spells_lettered (tab ▸ rfl)
  · exact spells_lettered (backspace ▸ rfl)
  · exact spells_lettered (formFeed ▸ rfl)
  · exact spells_numbered (by omega)
  · refine (spells_letter character).imp fun shown => .inl ⟨?_, shown⟩
    exact ⟨quote, backslash, decide_eq_false control⟩

/-- A character is read back from the way that filters write it. -/
theorem spells_character (character : Char) :
    Spells (Filter.Value.written character) Anything (Character character) := by
  unfold Filter.Value.written
  split
  · next special =>
      refine spells_numbered ?_
      rcases special with rfl | rfl | rfl <;> decide
  · exact spells_written character

/-- The characters of a string are spelled as they are written, up to the closing quote. -/
theorem spells_characters (text : List Char) :
    Spells (text.flatMap Filter.Value.written ++ ['"']) Anything (Characters text) := by
  induction text with
  | nil => exact spells_letter '"'
  | cons character others ih =>
      rw [List.flatMap_cons, List.append_assoc]
      exact (spells_character character).before ih

/-- A string is read back from between its quotes. -/
theorem spells_quoted (text : String) :
    Spells (Filter.Value.quotedText text) Anything (Relation.Comp (Mark '"') (Text text)) := by
  have inside : Spells _ Anything (Text text) :=
    (spells_characters text.toList).imp read_eq_ok.mpr
  exact (spells_mark '"' (by decide)).before inside

end JsonString

namespace JsonNumber

open Json

/-- The next character does not go on with a number. -/
def EndsNumber (rest : List Char) : Prop :=
  ∀ next ∈ rest.head?, next.isDigit = false ∧ next ≠ '.' ∧ next ≠ 'e' ∧ next ≠ 'E'

variable {rest digits : List Char} {significand value : Nat}

/-- Reading more digits does not make a number less. -/
theorem le_ofDigitChars (digits : List Char) (significand : Nat) :
    significand ≤ Nat.ofDigitChars 10 digits significand := by
  induction digits generalizing significand with
  | nil => exact Nat.le_of_eq (Nat.ofDigitChars_nil ..).symm
  | cons digit digits ih =>
      rw [Nat.ofDigitChars_cons]
      refine Nat.le_trans ?_ (ih _)
      omega

/-- Digits are taken as long as 64 bits hold the number. -/
theorem leading_eq (fits : Nat.ofDigitChars 10 digits significand ≤ greatest) :
    leading significand digits = (Nat.ofDigitChars 10 digits significand, 0) := by
  induction digits generalizing significand with
  | nil => rw [leading, Nat.ofDigitChars_nil]
  | cons digit digits ih =>
      rw [Nat.ofDigitChars_cons, Nat.mul_comm] at fits
      have small : significand * 10 + digitValue digit ≤ greatest :=
        Nat.le_trans (le_ofDigitChars digits _) fits
      rw [leading, if_pos small, Nat.ofDigitChars_cons, Nat.mul_comm 10]
      exact ih fits

/-- A number is printed with at least one digit. -/
theorem exists_toDigits_eq (value : Nat) :
    ∃ digit digits, Nat.toDigits 10 value = digit :: digits ∧ digit.isDigit = true := by
  obtain ⟨digit, digits, whole⟩ := List.exists_cons_of_ne_nil (Nat.toDigits_ne_nil (n := value))
  have among : digit ∈ Nat.toDigits 10 value := whole ▸ List.mem_cons_self ..
  exact ⟨digit, digits, whole, Nat.isDigit_of_mem_toDigits (by decide) (by decide) among⟩

/-- The digits of a number end where something else follows. -/
theorem span_toDigits (value : Nat) (ends : EndsNumber rest) :
    (Nat.toDigits 10 value ++ rest).takeWhile Char.isDigit = Nat.toDigits 10 value ∧
      (Nat.toDigits 10 value ++ rest).dropWhile Char.isDigit = rest := by
  have digits : ∀ digit ∈ Nat.toDigits 10 value, digit.isDigit = true := fun digit among =>
    Nat.isDigit_of_mem_toDigits (by decide) (by decide) among
  rw [List.takeWhile_append_of_pos digits, List.dropWhile_append_of_pos digits]
  cases rest with
  | nil => simp
  | cons next rest => simp [(ends next rfl).1]

/-- A number ends behind its digits, unless a fraction or an exponent follows. -/
theorem readAfterWhole_eq {negative : Bool} {cursor : Cursor} (ends : EndsNumber cursor.rest) :
    readAfterWhole negative significand 0 cursor =
      .ok (ofInteger negative significand, cursor) := by
  rw [readAfterWhole]
  split
  · next rest stands => exact absurd rfl (ends '.' (by rw [stands]; rfl)).2.1
  · next rest stands => exact absurd rfl (ends 'e' (by rw [stands]; rfl)).2.2.1
  · next rest stands => exact absurd rfl (ends 'E' (by rw [stands]; rfl)).2.2.2
  · rfl

/-- A number of 64 bits is read back from its digits. -/
theorem spells_toDigits (negative : Bool) (fits : value ≤ greatest) :
    Spells (Nat.toDigits 10 value) EndsNumber fun cursor behind =>
      read negative cursor = .ok (ofInteger negative value, behind) := by
  intro cursor rest stands ends
  rcases Nat.eq_zero_or_pos value with rfl | positive
  · rw [Nat.toDigits_zero, List.singleton_append] at stands
    have left : cursor.advance.rest = rest := by
      rw [Cursor.advance_of_cons stands]
    have alone : ((rest.head?.map Char.isDigit).getD false) = false := by
      cases rest with
      | nil => rfl
      | cons next rest => exact (ends next rfl).1
    refine ⟨cursor.advance, left, ?_⟩
    show read negative cursor = _
    rw [read]
    simp only [stands, alone, Bool.false_eq_true, if_false]
    exact readAfterWhole_eq (left ▸ ends)
  · obtain ⟨taken, left⟩ := span_toDigits value ends
    rw [← stands] at taken left
    have denotes : leading 0 cursor.digits = (value, 0) := by
      rw [Cursor.digits, taken, leading_eq, Nat.ofDigitChars_ten_toDigits]
      rwa [Nat.ofDigitChars_ten_toDigits]
    have behind : cursor.skipDigits.rest = rest := by
      rw [Cursor.skipDigits, Cursor.skipFrom_eq]
      exact left
    obtain ⟨digit, digits, whole, decimal⟩ := exists_toDigits_eq value
    have notZero : digit ≠ '0' := by
      rintro rfl
      exact JsonPointer.head?_toDigits positive (whole ▸ rfl)
    rw [whole, List.cons_append] at stands
    refine ⟨cursor.skipDigits, behind, ?_⟩
    show read negative cursor = _
    rw [read]
    split
    · next empty => rw [empty] at stands; cases stands
    · next others zero =>
        rw [zero] at stands
        exact absurd (List.cons.inj stands).1.symm notZero
    · next first others _ shown =>
        obtain ⟨rfl, rfl⟩ := List.cons.inj (shown.symm.trans stands)
        rw [if_pos decimal, denotes]
        exact readAfterWhole_eq (behind ▸ ends)

/-- Digits are no blanks of a document. -/
theorem isGap_of_isDigit {digit : Char} (decimal : digit.isDigit = true) :
    Cursor.isGap digit = false := by
  rw [Bool.eq_false_iff]
  intro gap
  simp only [Cursor.isGap, Bool.or_eq_true, beq_iff_eq] at gap
  rcases gap with ((rfl | rfl) | rfl) | rfl <;> exact absurd decimal (by decide)

/-- An integer of 64 bits is read back from its digits, behind its sign if it has one. -/
theorem spells_integer {value : Int} (least : -(greatestMagnitude : Int) ≤ value)
    (most : value ≤ greatest) :
    Spells (printInteger value) EndsNumber (Number (.integer value)) := by
  cases value with
  | ofNat size =>
      intro cursor rest stands ends
      have fits : size ≤ greatest := by
        rw [Int.ofNat_eq_natCast] at most
        omega
      obtain ⟨digit, digits, whole, decimal⟩ := exists_toDigits_eq size
      have begins : cursor.rest = digit :: (digits ++ rest) := by
        rw [stands, printInteger, whole, List.cons_append]
      have here := Cursor.skipGap_of_cons begins (isGap_of_isDigit decimal)
      obtain ⟨behind, left, found⟩ := spells_toDigits false fits cursor rest stands ends
      refine ⟨behind, left, .inr ?_⟩
      rw [here]
      exact ⟨⟨digit, _, begins, decimal⟩, found⟩
  | negSucc size =>
      have magnitude : 0 < size + 1 ∧ size + 1 ≤ greatestMagnitude := by
        rw [Int.negSucc_eq] at least
        omega
      have fits : size + 1 ≤ greatest := Nat.le_trans magnitude.2 (by decide)
      have negative : ofInteger true (size + 1) = .integer (.negSucc size) := by
        rw [ofInteger, if_pos rfl, if_pos magnitude, Int.negSucc_eq]
        rfl
      have digits := spells_toDigits true fits
      rw [negative] at digits
      exact ((spells_mark '-' (by decide)).before digits).imp .inl

end JsonNumber

end ModelScribe

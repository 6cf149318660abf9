import Mathlib.Data.List.DropRight
import ModelScribe.Text.Blank

/-! # The ink of a text

The ink of a text is what is left of it without its blanks. Trimming a text and
cutting it into lines keep its ink (`ModelScribe.Text.ink_trim`,
`ModelScribe.Text.ink_lines`). A text that begins with ink keeps its beginning
when what stands before it is trimmed along
(`ModelScribe.Text.trimEnd_append_of_beginsInked`).
-/

namespace ModelScribe.Text

/-- The characters of a text that are not blank. -/
def ink (text : List Char) : List Char :=
  text.filter fun character => !isBlank character

@[simp]
theorem ink_nil : ink [] = [] := rfl

/-- The ink of two texts is that of the first and then of the second. -/
@[simp]
theorem ink_append (first second : List Char) : ink (first ++ second) = ink first ++ ink second :=
  List.filter_append ..

/-- A text of blanks has no ink. -/
theorem ink_of_blank {text : List Char} (blank : ∀ character ∈ text, isBlank character = true) :
    ink text = [] := by
  simpa [ink] using blank

/-- A line feed has no ink. -/
@[simp]
theorem ink_cons_lineFeed (text : List Char) : ink ('\n' :: text) = ink text := rfl

/-- The first character that is not blank is the first one of the ink. -/
theorem head?_dropWhile_isBlank (text : List Char) :
    (text.dropWhile isBlank).head? = (ink text).head? := by
  induction text with
  | nil => rfl
  | cons character rest ih =>
      by_cases blank : isBlank character = true
      · simp only [List.dropWhile_cons, blank, ↓reduceIte, ih, ink, List.filter_cons, Bool.not_true,
          Bool.false_eq_true]
      · simp only [List.dropWhile_cons, blank, Bool.false_eq_true, ↓reduceIte, List.head?_cons, ink,
          List.filter_cons, Bool.not_false]

/-- Digits are no blanks. -/
theorem isBlank_of_isDigit {character : Char} (digit : character.isDigit = true) :
    isBlank character = false := by
  simp only [Char.isDigit, Bool.and_eq_true, decide_eq_true_eq, ge_iff_le,
    UInt32.le_iff_toNat_le] at digit
  have low : 48 ≤ character.toNat := digit.1
  have high : character.toNat ≤ 57 := digit.2
  simp only [isBlank, Bool.or_eq_false_iff, Bool.and_eq_false_iff, decide_eq_false_iff_not,
    beq_eq_false_iff_ne]
  omega

/-- The first character is not blank. -/
def BeginsInked (text : List Char) : Prop :=
  ∃ character rest, text = character :: rest ∧ isBlank character = false

/-- The last character is not blank. -/
def EndsInked (text : List Char) : Prop :=
  ∃ before character, text = before ++ [character] ∧ isBlank character = false

theorem BeginsInked.ne_nil {text : List Char} (begins : BeginsInked text) : text ≠ [] := by
  obtain ⟨character, rest, rfl, _⟩ := begins
  exact List.cons_ne_nil _ _

theorem EndsInked.ne_nil {text : List Char} (ends : EndsInked text) : text ≠ [] := by
  obtain ⟨before, character, rfl, _⟩ := ends
  exact List.append_ne_nil_of_right_ne_nil _ (List.cons_ne_nil _ _)

/-- What follows a text does not change how it begins. -/
theorem BeginsInked.append {text : List Char} (begins : BeginsInked text) (more : List Char) :
    BeginsInked (text ++ more) := by
  obtain ⟨character, rest, rfl, inked⟩ := begins
  exact ⟨character, rest ++ more, rfl, inked⟩

/-- The blanks before a text that begins with ink stop there. -/
theorem BeginsInked.isBlank_head? {text : List Char} (begins : BeginsInked text) :
    ∀ first ∈ text.head?, isBlank first = false := by
  obtain ⟨character, rest, rfl, inked⟩ := begins
  intro first member
  obtain rfl := Option.some.inj member
  exact inked

/-- The last character of a text that ends with ink is not blank. -/
theorem EndsInked.isBlank_getLast? {text : List Char} (ends : EndsInked text) :
    ∀ last ∈ text.getLast?, isBlank last = false := by
  obtain ⟨before, character, rfl, inked⟩ := ends
  intro last member
  rw [List.getLast?_concat] at member
  obtain rfl := Option.some.inj member
  exact inked

/-- What comes before a text does not change how it ends. -/
theorem EndsInked.append {text : List Char} (ends : EndsInked text) (before : List Char) :
    EndsInked (before ++ text) := by
  obtain ⟨start, character, rfl, inked⟩ := ends
  exact ⟨before ++ start, character, (List.append_assoc ..).symm, inked⟩

/-- Nothing is trimmed before something to see. -/
theorem trimStart_of_beginsInked {text : List Char} (begins : BeginsInked text) :
    trimStart text = text := by
  obtain ⟨character, rest, rfl, inked⟩ := begins
  simp [trimStart, inked]

/-- Trimming the end drops the longest run of blanks there. -/
theorem trimEnd_eq_rdropWhile (text : List Char) : trimEnd text = text.rdropWhile isBlank := rfl

theorem trimEnd_of_endsInked {text : List Char} (ends : EndsInked text) : trimEnd text = text := by
  obtain ⟨before, character, rfl, inked⟩ := ends
  rw [trimEnd_eq_rdropWhile, List.rdropWhile_concat_neg _ _ _ (by simp [inked])]

/-- A text is its trimmed form and the blanks at its end. -/
theorem exists_trimEnd_append (text : List Char) :
    ∃ blanks, (∀ character ∈ blanks, isBlank character = true) ∧ text = trimEnd text ++ blanks :=
  ⟨text.rtakeWhile isBlank, fun _ member => List.mem_rtakeWhile_imp member,
    List.rdropWhile_append_rtakeWhile.symm⟩

/-- A text is the blanks at its beginning and its trimmed form. -/
theorem exists_append_trimStart (text : List Char) :
    ∃ blanks, (∀ character ∈ blanks, isBlank character = true) ∧ text = blanks ++ trimStart text :=
  ⟨text.takeWhile isBlank, fun _ member => List.mem_takeWhile_imp member,
    List.takeWhile_append_dropWhile.symm⟩

/-- Trimming adds no characters. -/
theorem mem_of_mem_trimEnd {text : List Char} {character : Char}
    (member : character ∈ trimEnd text) : character ∈ text := by
  obtain ⟨blanks, _, whole⟩ := exists_trimEnd_append text
  rw [whole]
  exact List.mem_append_left _ member

/-- Blanks at the end are trimmed away. -/
theorem trimEnd_append_of_blank (text : List Char) {blanks : List Char}
    (blank : ∀ character ∈ blanks, isBlank character = true) :
    trimEnd (text ++ blanks) = trimEnd text := by
  unfold trimEnd
  rw [List.reverse_append, List.dropWhile_append_of_pos]
  intro character member
  exact blank character (List.mem_reverse.mp member)

/-- Trimming the end does not reach past a text that begins with ink. -/
theorem trimEnd_append_of_beginsInked (before : List Char) {text : List Char}
    (begins : BeginsInked text) : trimEnd (before ++ text) = before ++ trimEnd text := by
  obtain ⟨character, rest, rfl, inked⟩ := begins
  have kept : ((rest.reverse ++ [character]).dropWhile isBlank).isEmpty = false := by
    rw [List.isEmpty_eq_false_iff, ne_eq, List.dropWhile_eq_nil_iff]
    intro blank
    have := blank character (by simp)
    simp [inked] at this
  unfold trimEnd
  rw [List.reverse_append, List.reverse_cons, List.dropWhile_append, kept]
  simp

/-- Trimming the end keeps a beginning with ink. -/
theorem BeginsInked.trimEnd {text : List Char} (begins : BeginsInked text) :
    BeginsInked (trimEnd text) := by
  obtain ⟨character, rest, rfl, inked⟩ := begins
  obtain ⟨blanks, blank, whole⟩ := exists_trimEnd_append (character :: rest)
  cases shape : Text.trimEnd (character :: rest) with
  | nil =>
      rw [shape, List.nil_append] at whole
      have blankFirst := blank character (by simp [← whole])
      simp [inked] at blankFirst
  | cons first more =>
      rw [shape, List.cons_append, List.cons.injEq] at whole
      exact ⟨first, more, rfl, whole.1 ▸ inked⟩

/-- What is left by trimming the end ends with ink. -/
theorem endsInked_trimEnd {text : List Char} (left : trimEnd text ≠ []) :
    EndsInked (trimEnd text) := by
  have inked := List.rdropWhile_last_not isBlank text left
  exact ⟨_, _, (List.dropLast_concat_getLast left).symm, Bool.eq_false_iff.mpr inked⟩

theorem BeginsInked.endsInked_trimEnd {text : List Char} (begins : BeginsInked text) :
    EndsInked (Text.trimEnd text) :=
  Text.endsInked_trimEnd begins.trimEnd.ne_nil

/-- A character is trimmed from the end if it is blank and nothing is left behind it. -/
theorem trimEnd_cons (character : Char) (rest : List Char) :
    trimEnd (character :: rest) =
      if trimEnd rest = [] then trimEnd [character] else character :: trimEnd rest := by
  unfold trimEnd
  rw [List.reverse_cons, List.dropWhile_append]
  by_cases empty : rest.reverse.dropWhile isBlank = []
  · simp [empty]
  · simp [empty]

/-- Trimming the end stops at a character to see. -/
theorem trimEnd_cons_of_inked {character : Char} (inked : isBlank character = false)
    (rest : List Char) : trimEnd (character :: rest) = character :: trimEnd rest := by
  rw [trimEnd_cons]
  by_cases empty : trimEnd rest = []
  · rw [if_pos empty, empty]
    exact trimEnd_of_endsInked ⟨[], character, rfl, inked⟩
  · rw [if_neg empty]

/-- One character to see is both the beginning and the end. -/
theorem BeginsInked.endsInked {character : Char} (begins : BeginsInked [character]) :
    EndsInked [character] := by
  obtain ⟨first, more, same, inked⟩ := begins
  rw [List.cons.injEq] at same
  exact ⟨[], character, rfl, same.1 ▸ inked⟩

/-- A text that begins with ink is only trimmed at its end. -/
theorem trim_of_beginsInked {text : List Char} (begins : BeginsInked text) :
    trim text = trimEnd text := by
  rw [trim, trimStart_of_beginsInked begins]

/-- Nothing is trimmed from a text that begins and ends with ink. -/
theorem trim_of_inked {text : List Char} (begins : BeginsInked text) (ends : EndsInked text) :
    trim text = text := by
  rw [trim_of_beginsInked begins, trimEnd_of_endsInked ends]

/-- A text is its trimmed form between blanks. -/
theorem exists_append_trim_append (text : List Char) :
    ∃ before after, (∀ character ∈ before, isBlank character = true) ∧
      (∀ character ∈ after, isBlank character = true) ∧ text = before ++ trim text ++ after := by
  obtain ⟨before, blankBefore, whole⟩ := exists_append_trimStart text
  obtain ⟨after, blankAfter, trimmed⟩ := exists_trimEnd_append (trimStart text)
  refine ⟨before, after, blankBefore, blankAfter, ?_⟩
  rw [trim, List.append_assoc, ← trimmed, ← whole]

/-- Trimming keeps the ink. -/
@[simp]
theorem ink_trim (text : List Char) : ink (trim text) = ink text := by
  obtain ⟨before, after, blankBefore, blankAfter, whole⟩ := exists_append_trim_append text
  conv_rhs => rw [whole]
  simp [ink_of_blank blankBefore, ink_of_blank blankAfter]

/-- Trimming the end keeps the ink. -/
@[simp]
theorem ink_trimEnd (text : List Char) : ink (trimEnd text) = ink text := by
  obtain ⟨after, blankAfter, whole⟩ := exists_trimEnd_append text
  conv_rhs => rw [whole]
  simp [ink_of_blank blankAfter]

/-- Blanks around a text do not change its trimmed form. -/
theorem trim_append_append_of_blank (text : List Char) {before after : List Char}
    (blankBefore : ∀ character ∈ before, isBlank character = true)
    (blankAfter : ∀ character ∈ after, isBlank character = true) :
    trim (before ++ text ++ after) = trim text := by
  unfold trim trimStart
  rw [List.append_assoc, List.dropWhile_append_of_pos blankBefore, List.dropWhile_append]
  by_cases empty : (text.dropWhile isBlank).isEmpty
  · rw [List.isEmpty_iff.mp empty, List.dropWhile_eq_nil_iff.mpr blankAfter]
    rfl
  · simp only [empty, Bool.false_eq_true, ↓reduceIte]
    exact trimEnd_append_of_blank _ blankAfter

/-- Trimming both ends after trimming one of them is trimming both. -/
@[simp]
theorem trim_trimEnd (text : List Char) : trim (trimEnd text) = trim text := by
  obtain ⟨after, blankAfter, whole⟩ := exists_trimEnd_append text
  conv_rhs => rw [whole, ← List.nil_append (trimEnd text)]
  exact (trim_append_append_of_blank _ (by simp) blankAfter).symm

/-- Trimming the end twice trims it once. -/
@[simp]
theorem trimEnd_trimEnd (text : List Char) : trimEnd (trimEnd text) = trimEnd text := by
  obtain ⟨after, blankAfter, whole⟩ := exists_trimEnd_append text
  conv_rhs => rw [whole]
  exact (trimEnd_append_of_blank _ blankAfter).symm

/-- Trimming twice is trimming once. -/
@[simp]
theorem trim_trim (text : List Char) : trim (trim text) = trim text := by
  obtain ⟨before, after, blankBefore, blankAfter, whole⟩ := exists_append_trim_append text
  conv_rhs => rw [whole]
  exact (trim_append_append_of_blank _ blankBefore blankAfter).symm

end ModelScribe.Text

import ModelScribe.Proofs.Json.Locality

/-! # The strings of a JSON text

A string is made of characters, as they are or escaped, up to its closing quote
(`ModelScribe.JsonString.Characters`). It is read so whatever the fuel is counted
(`ModelScribe.JsonString.read_eq_ok`), and whatever follows the quote
(`ModelScribe.Json.local_text`).
-/

namespace ModelScribe

namespace JsonString

open Json

variable {cursor behind : Cursor} {character : Char} {fuel : Nat} {stable : Prop}

/-- A hexadecimal digit takes one byte. -/
theorem utf8Size_of_hexValue? {digit : Char} {value : Nat}
    (denotes : hexValue? digit = some value) : digit.utf8Size = 1 := by
  have low : digit.val ≤ 'f'.val := by
    rw [hexValue?] at denotes
    split at denotes
    · next within => exact UInt32.le_trans within.2 (by decide)
    · split at denotes
      · next within => exact within.2
      · split at denotes
        · next within => exact UInt32.le_trans within.2 (by decide)
        · cases denotes
  rw [Char.utf8Size, if_pos (UInt32.le_trans low (by decide))]

/-- Four hexadecimal digits of an escape. -/
def HexUnit (unit : Nat) (cursor behind : Cursor) : Prop :=
  readUnit cursor = .ok (unit, behind)

/-- A unit has four digits of one byte each. -/
theorem hexUnit?_eq_some {digits : List Char} {unit : Nat} (denotes : hexUnit? digits = some unit) :
    digits.length = 4 ∧ ∀ digit ∈ digits, digit.utf8Size = 1 := by
  unfold hexUnit? at denotes
  split at denotes
  · simp only [Option.bind_eq_bind, Option.bind_eq_some_iff] at denotes
    obtain ⟨_, first, _, second, _, third, _, fourth, -⟩ := denotes
    refine ⟨rfl, ?_⟩
    simp [utf8Size_of_hexValue? first, utf8Size_of_hexValue? second, utf8Size_of_hexValue? third,
      utf8Size_of_hexValue? fourth]
  · cases denotes

/-- So many characters of one byte each are as many bytes. -/
theorem afterBytes?_append {digits : List Char} (single : ∀ digit ∈ digits, digit.utf8Size = 1)
    (rest : List Char) (position : Position) :
    position.afterBytes? digits.length (digits ++ rest) =
      some (digits.foldl Position.after position) := by
  induction digits generalizing position with
  | nil => rw [List.length_nil, Position.afterBytes?, List.foldl_nil]
  | cons digit digits ih =>
      obtain ⟨one, others⟩ := List.forall_mem_cons.mp single
      rw [List.length_cons, List.cons_append, Position.afterBytes?, one, if_pos (by omega)]
      exact ih others _

/-- A unit stands where its four digits are next. -/
theorem unit_iff {unit : Nat} :
    HexUnit unit cursor behind ↔
      ∃ digits, hexUnit? digits = some unit ∧ Word digits cursor behind := by
  rw [HexUnit, readUnit]
  constructor
  · intro read
    split at read
    · cases read
    · next finish bytes =>
        split at read
        · cases read
        · next found denotes =>
            obtain ⟨rfl, rfl⟩ := Prod.mk.inj (Except.ok.inj read)
            obtain ⟨four, single⟩ := hexUnit?_eq_some denotes
            refine ⟨_, denotes, word_iff.mpr ⟨(List.take_append_drop 4 _).symm, ?_⟩⟩
            have place := afterBytes?_append single (cursor.rest.drop 4) cursor.position
            rw [four, List.take_append_drop, bytes] at place
            exact Option.some.inj place
  · rintro ⟨digits, denotes, word⟩
    obtain ⟨split, place⟩ := word_iff.mp word
    obtain ⟨four, single⟩ := hexUnit?_eq_some denotes
    rw [← four, split, afterBytes?_append single, List.take_left, List.drop_left]
    simp [denotes, ← place]

theorem local_unit (unit : Nat) : Local stable 4 (HexUnit unit) :=
  .congr unit_iff.symm <| .union fun digits => .guard fun denotes =>
    (hexUnit?_eq_some denotes).1 ▸ local_word digits

/-- Within a pair of units a letter is read where it stands. -/
theorem expectInPair_eq_ok {expected : Char} :
    expectInPair expected cursor = .ok behind ↔ Letter expected cursor behind := by
  rw [expectInPair]
  split
  · next ends => simp [not_letter ends]
  · next character rest stands =>
      by_cases same : character = expected <;> simp [letter_iff stands, same]

/-- The character of a hexadecimal escape is denoted by one unit or by two. -/
theorem readCodePoint_eq_ok :
    readCodePoint cursor = .ok (character, behind) ↔
      ∃ unit, isLowUnit unit = false ∧
        ((isHighUnit unit = false ∧ Char.ofNat unit = character) ∧ HexUnit unit cursor behind ∨
          ∃ low, (isHighUnit unit = true ∧ isLowUnit low = true ∧ pairedChar unit low = character) ∧
            Relation.Comp (HexUnit unit) (Relation.Comp (Letter '\\')
              (Relation.Comp (Letter 'u') (HexUnit low))) cursor behind) := by
  rw [readCodePoint]
  constructor
  · intro read
    obtain ⟨⟨unit, middle⟩, unitRead, read⟩ := bind_eq_ok.mp read
    dsimp only at read
    split at read
    · cases read
    · next notLow =>
        refine ⟨unit, Bool.eq_false_iff.mpr notLow, ?_⟩
        split at read
        · next high =>
            obtain ⟨slashed, backslash, read⟩ := bind_eq_ok.mp read
            obtain ⟨lettered, letter, read⟩ := bind_eq_ok.mp read
            obtain ⟨⟨low, after⟩, lowRead, read⟩ := bind_eq_ok.mp read
            dsimp only at read
            split at read
            · next isLow =>
                obtain ⟨rfl, rfl⟩ := Prod.mk.inj (Except.ok.inj read)
                exact .inr ⟨low, ⟨high, isLow, rfl⟩, middle, unitRead,
                  slashed, expectInPair_eq_ok.mp backslash,
                  lettered, expectInPair_eq_ok.mp letter, lowRead⟩
            · cases read
        · next notHigh =>
            obtain ⟨rfl, rfl⟩ := Prod.mk.inj (Except.ok.inj read)
            exact .inl ⟨⟨Bool.eq_false_iff.mpr notHigh, rfl⟩, unitRead⟩
  · rintro ⟨unit, notLow, ⟨⟨notHigh, rfl⟩, unitRead⟩ |
      ⟨low, ⟨high, isLow, rfl⟩, middle, unitRead, slashed, backslash, lettered, letter, lowRead⟩⟩
    · refine bind_eq_ok.mpr ⟨_, unitRead, ?_⟩
      simp [notLow, notHigh]
    · refine bind_eq_ok.mpr ⟨_, unitRead, ?_⟩
      simp only [notLow, high, Bool.false_eq_true, if_false, if_true]
      refine bind_eq_ok.mpr ⟨_, expectInPair_eq_ok.mpr backslash, ?_⟩
      refine bind_eq_ok.mpr ⟨_, expectInPair_eq_ok.mpr letter, ?_⟩
      refine bind_eq_ok.mpr ⟨_, lowRead, ?_⟩
      simp [isLow]

/-- The rest of an escape behind its backslash. -/
def Escape (character : Char) (cursor behind : Cursor) : Prop :=
  readEscape cursor = .ok (character, behind)

/-- An escape is a code point behind its letter, or the letter that stands for a character. -/
theorem escape_iff :
    Escape character cursor behind ↔
      Relation.Comp (Letter 'u')
        (fun cursor behind => readCodePoint cursor = .ok (character, behind)) cursor behind ∨
      ∃ letter, escapedChar? letter = some character ∧ Letter letter cursor behind := by
  rw [Escape, readEscape]
  split
  · next ends => simp [Relation.Comp, not_letter ends]
  · next rest stands => simp [Relation.Comp, letter_iff stands, escapedChar?]
  · next letter rest plain stands =>
      have notUnit : letter ≠ 'u' := plain
      cases escaped : escapedChar? letter with
      | none => simp [Relation.Comp, letter_iff stands, notUnit, escaped]
      | some denoted => simp [Relation.Comp, letter_iff stands, notUnit, escaped]

/-- A code point is local and at least four characters long. -/
theorem local_codePoint (character : Char) :
    Local stable 4 fun cursor behind => readCodePoint cursor = .ok (character, behind) := by
  refine .congr readCodePoint_eq_ok.symm (.union fun unit => .guard fun _ => ?_)
  refine .or (.guard fun _ => local_unit unit) (.union fun low => .guard fun _ => ?_)
  refine ((local_unit unit).comp ((local_letter '\\').comp
    ((local_letter 'u').comp (local_unit low)))).of_le ?_
  decide

/-- An escape is local and at least one character long. -/
theorem local_escape (character : Char) : Local stable 1 (Escape character) := by
  refine .congr escape_iff.symm (.or ?_ (.union fun letter => .guard fun _ => ?_))
  · exact ((local_letter 'u').comp (local_codePoint character)).of_le (by decide)
  · exact local_letter letter

/-- A character of a string, as it is or escaped. -/
def Character (character : Char) (cursor behind : Cursor) : Prop :=
  (character ≠ '"' ∧ character ≠ '\\' ∧ isControl character = false) ∧
      Letter character cursor behind ∨
    Relation.Comp (Letter '\\') (Escape character) cursor behind

/-- The characters of a string up to its closing quote. -/
def Characters : List Char → Cursor → Cursor → Prop
  | [] => Letter '"'
  | character :: others => Relation.Comp (Character character) (Characters others)

theorem local_character (character : Char) : Local stable 1 (Character character) :=
  .or (.guard fun _ => local_letter character)
    (((local_letter '\\').comp (local_escape character)).of_le (by decide))

/-- The characters of a string are local, with the quote that closes it. -/
theorem local_characters (text : List Char) : Local stable (text.length + 1) (Characters text) := by
  induction text with
  | nil => exact local_letter '"'
  | cons character others ih =>
      rw [List.length_cons, Nat.add_comm]
      exact (local_character character).comp ih

/-- Behind a backslash stands an escape. -/
theorem character_of_backslash {rest : List Char} (stands : cursor.rest = '\\' :: rest) :
    Character character cursor behind ↔ Escape character cursor.advance behind := by
  have apart : ¬ ((character ≠ '"' ∧ character ≠ '\\' ∧ isControl character = false) ∧
      Letter character cursor behind) :=
    fun plain => plain.1.2.1 ((letter_iff stands).mp plain.2).1.symm
  rw [Character, or_iff_right apart]
  simp [Relation.Comp, letter_iff stands]

/-- A character that is neither a quote nor a backslash stands for itself. -/
theorem character_of_plain {shown : Char} {rest : List Char} (stands : cursor.rest = shown :: rest)
    (apart : shown ≠ '"' ∧ shown ≠ '\\') :
    Character character cursor behind ↔
      isControl shown = false ∧ shown = character ∧ cursor.advance = behind := by
  simp only [Character, Relation.Comp, letter_iff stands, apart.2, false_and, exists_false,
    or_false]
  constructor
  · rintro ⟨⟨-, -, visible⟩, rfl, ends⟩
    exact ⟨visible, rfl, ends⟩
  · rintro ⟨visible, rfl, ends⟩
    exact ⟨⟨apart.1, apart.2, visible⟩, rfl, ends⟩

/-- One step of reading a string ends at the quote or takes a character. -/
theorem readFrom_succ_eq_ok {before text : List Char} :
    readFrom (fuel + 1) cursor before = .ok (text, behind) ↔
      before.reverse = text ∧ Letter '"' cursor behind ∨
        ∃ character middle, Character character cursor middle ∧
          readFrom fuel middle (character :: before) = .ok (text, behind) := by
  rw [readFrom]
  split
  · next ends => simp [Character, Relation.Comp, not_letter ends]
  · next rest stands => simp [Character, Relation.Comp, letter_iff stands]
  · next rest stands => simp [character_of_backslash stands, letter_iff stands, Escape]
  · next shown rest plain unescaped stands =>
      have apart : shown ≠ '"' ∧ shown ≠ '\\' := ⟨plain, unescaped⟩
      cases control : isControl shown <;>
        simp [character_of_plain stands apart, letter_iff stands, apart.1, control]

/-- Reading with fuel finds the characters of a string that has fewer of them. -/
theorem readFrom_eq_ok {before text : List Char} :
    readFrom fuel cursor before = .ok (text, behind) ↔
      ∃ found, text = before.reverse ++ found ∧ found.length < fuel ∧
        Characters found cursor behind := by
  induction fuel generalizing cursor before with
  | zero => simp [readFrom]
  | succ fuel ih =>
      rw [readFrom_succ_eq_ok]
      constructor
      · rintro (⟨rfl, quote⟩ | ⟨character, middle, stands, rest⟩)
        · exact ⟨[], (List.append_nil _).symm, by simp, quote⟩
        · obtain ⟨found, rfl, few, others⟩ := ih.mp rest
          exact ⟨character :: found, by simp, by simpa using few, middle, stands, others⟩
      · rintro ⟨found, rfl, few, stands⟩
        cases found with
        | nil => exact .inl ⟨(List.append_nil _).symm, stands⟩
        | cons character found =>
            obtain ⟨middle, first, others⟩ := stands
            refine .inr ⟨character, middle, first, ih.mpr ⟨found, by simp, ?_, others⟩⟩
            simpa using few

/-- A string is read up to its closing quote. -/
theorem read_eq_ok {text : String} :
    read cursor = .ok (text, behind) ↔ Characters text.toList cursor behind := by
  rw [read]
  constructor
  · intro succeeds
    obtain ⟨⟨found, finish⟩, reads, same⟩ := bind_eq_ok.mp succeeds
    obtain ⟨rfl, rfl⟩ := Prod.mk.inj (Except.ok.inj same)
    obtain ⟨_, rfl, -, stands⟩ := readFrom_eq_ok.mp reads
    simpa using stands
  · intro stands
    have locally : Local True (text.toList.length + 1) (Characters text.toList) :=
      local_characters text.toList
    have short := locally.length_le stands
    have reads : readFrom (cursor.rest.length + 1) cursor [] = .ok (text.toList, behind) :=
      readFrom_eq_ok.mpr ⟨text.toList, rfl, by omega, stands⟩
    refine bind_eq_ok.mpr ⟨(text.toList, behind), reads, ?_⟩
    simp [pure, Except.pure]

end JsonString

namespace Json

variable {stable : Prop}

/-- The string behind an opening quote. -/
def Text (text : String) (cursor behind : Cursor) : Prop :=
  JsonString.read cursor = .ok (text, behind)

theorem local_text (text : String) : Local stable 1 (Text text) :=
  .congr JsonString.read_eq_ok.symm ((JsonString.local_characters text.toList).of_le (by omega))

end Json

end ModelScribe

import ModelScribe.Proofs.Layout.Writing
import ModelScribe.Proofs.Module.Printed

/-! # The layout of declarations

A declaration is assembled on one line and laid out over several
(`ModelScribe.Printed.writes_declaration`): its fields one by one, each with its
type on a line of its own (`ModelScribe.Printed.writes_field`).
-/

namespace ModelScribe

open Layout

/-- A safe name is a word. -/
theorem IsSafeName.isWord {name : String} (safe : IsSafeName name) : IsWord name.toList := by
  obtain ⟨nonempty, characters⟩ := safe
  refine ⟨fun empty => nonempty (String.toList_eq_nil_iff.mp empty), fun character member => ?_⟩
  obtain ⟨inked, apart⟩ := characters character member
  simp only [List.mem_cons, List.not_mem_nil, or_false, not_or] at apart
  obtain ⟨noSingle, noDouble, noBacktick, noSlash, noOpen, noClose, noComma, noSemicolon,
    noParenthesis, noBracket⟩ := apart
  refine ⟨?_, noSlash⟩
  simp [Piece.isPlain, Piece.isQuote, Piece.isCloser, inked, noSingle, noDouble, noBacktick,
    noOpen, noClose, noComma, noSemicolon, noParenthesis, noBracket]

/-- The models that a type refers to have safe names. -/
def FieldType.IsSafe (type : FieldType) : Prop :=
  ∀ model, type.innermost = .reference model → IsSafeName model

/-- The text of the declaration is the one of its model and fields, and all names in it are safe. -/
structure Declaration.IsSafe (declaration : Declaration) : Prop where
  rendered : declaration.rendered = declarationText declaration.model declaration.fields
  model : IsSafeName declaration.model
  fields : ∀ field ∈ declaration.fields, IsSafeName field.key ∧ field.type.IsSafe

namespace Printed

/-- A type without quotes is a word. -/
theorem isWord_bareText {type : FieldType} (safe : type.IsSafe) :
    IsWord type.bareText.toList := by
  induction type with
  | primitive kind => cases kind <;> decide
  | object => decide
  | reference model => exact (safe model rfl).isWord
  | array item ih => exact ih safe
  | untyped => decide

/-- A type is written behind the space that is due. -/
theorem writes_type (unit : List Char) {type : FieldType} (safe : type.IsSafe) (depth : Nat) :
    Writes unit ⟨depth, .inLine true⟩ type.text.toList (' ' :: type.text.toList)
      ⟨depth, .inLine false⟩ := by
  cases type with
  | primitive kind =>
      have apart : '\'' ∉ kind.name.toList ∧ '\\' ∉ kind.name.toList := by
        cases kind <;> decide
      have written := Writes.literal unit '\'' kind.name.toList (by decide) apart.1 apart.2
        ⟨depth, .inLine true⟩
      have whole : (FieldType.primitive kind).text.toList =
          '\'' :: (kind.name.toList ++ ['\'']) := by
        simp [FieldType.text]
      rw [whole]
      exact written
  | array item =>
      have bracket : IsWord ['['] := by decide
      have word : IsWord ('[' :: item.bareText.toList) := bracket.append (isWord_bareText safe)
      have written := (Writes.word unit word ⟨depth, .inLine true⟩).append
        (Writes.closer unit ']' (by decide) depth false)
      have whole : (FieldType.array item).text.toList =
          '[' :: item.bareText.toList ++ [']'] := by
        simp [FieldType.text]
      rw [whole]
      exact written
  | reference model => exact Writes.word unit (safe model rfl).isWord ⟨depth, .inLine true⟩
  | object => exact Writes.word unit (by decide) ⟨depth, .inLine true⟩
  | untyped => exact Writes.word unit (by decide) ⟨depth, .inLine true⟩

/-- **Layout of a field.** A field is written on lines of its own, with its type between braces. -/
theorem writes_field (unit : List Char) {one : Field} (safeKey : IsSafeName one.key)
    (safeType : one.type.IsSafe) :
    Writes unit ⟨1, .lineStart false⟩ one.text.toList
      ('\n' :: (field (String.ofList unit) one).toList) ⟨1, .inLine true⟩ := by
  have key : IsWord (one.key.toList ++ [':']) := safeKey.isWord.append (by decide)
  have type : IsWord ['t', 'y', 'p', 'e', ':'] := by decide
  have named := (Writes.space unit ⟨1, .lineStart false⟩).append
    (Writes.word unit key ⟨1, .lineStart false⟩)
  have opened := Writes.openBrace ⟨'t', by decide, by decide⟩ ⟨1, .inLine true⟩
    ((Writes.space unit ⟨2, .lineStart false⟩).append (Writes.word unit type ⟨2, .lineStart false⟩))
  have typed := (Writes.space unit ⟨2, .inLine false⟩).append (writes_type unit safeType 2)
  have closed := (Writes.space unit ⟨2, .inLine false⟩).append (Writes.closeBrace unit 1 true)
  have written := named.append ((Writes.space unit ⟨1, .inLine false⟩).append (opened.append
    (typed.append (closed.append (Writes.space unit ⟨1, .inLine false⟩)))))
  simpa [Field.text, field, Spot.gap, Spot.indentation] using written

/-- Fields between commas are written one by one. -/
theorem writes_fields (unit : List Char) {first : Field} {others : List Field}
    (safe : ∀ one ∈ first :: others, IsSafeName one.key ∧ one.type.IsSafe) :
    Writes unit ⟨1, .lineStart false⟩
      (String.intercalate "," ((first :: others).map Field.text)).toList
      ('\n' ::
        (String.intercalate ",\n" ((first :: others).map (field (String.ofList unit)))).toList)
      ⟨1, .inLine true⟩ := by
  have own := safe first (List.mem_cons_self ..)
  have written := writes_field unit own.1 own.2
  induction others generalizing first with
  | nil => simpa using written
  | cons next others ih =>
      have second := safe next (List.mem_cons_of_mem _ (List.mem_cons_self ..))
      have behind := ih (fun one member => safe one (List.mem_cons_of_mem _ member)) second
        (writes_field unit second.1 second.2)
      have both := written.append ((Writes.comma unit 0 true).append behind)
      simpa [List.intercalate_cons_cons] using both

/-- Fields begin with a key, behind a blank. -/
theorem head?_ink_fields {first : Field} (safe : IsSafeName first.key) (others : List Field) :
    ∃ character, (Text.ink (' ' ::
      (String.intercalate "," ((first :: others).map Field.text)).toList)).head? =
        some character ∧ character ≠ '}' := by
  obtain ⟨nonempty, characters⟩ := safe.isWord
  obtain ⟨character, more, key⟩ := List.exists_cons_of_ne_nil nonempty
  have plain := (characters character (by simp [key])).1
  simp only [Piece.isPlain, Bool.not_eq_true', Bool.or_eq_false_iff, List.contains_eq_mem,
    List.mem_cons, List.not_mem_nil, or_false, decide_eq_false_iff_not, not_or] at plain
  obtain ⟨⟨⟨_, inked⟩, _⟩, _, noClose, _⟩ := plain
  have blank : Text.isBlank ' ' = true := by decide
  refine ⟨character, ?_, noClose⟩
  cases others with
  | nil => simp [Field.text, key, Text.ink, inked, blank]
  | cons next others => simp [Field.text, key, Text.ink, inked, blank]

/-- **Layout of a declaration.** A declaration is written behind the gap of its spot, and ends its
line. -/
theorem writes_declaration (unit : List Char) {declared : Declaration} (safe : declared.IsSafe)
    (place : Place) :
    Writes unit ⟨0, place⟩ declared.rendered.toList
      (Spot.gap unit ⟨0, place⟩ ++ (declaration (String.ofList unit) declared).toList)
      ⟨0, .lineStart false⟩ := by
  have name := safe.model.isWord
  have areWords : ∀ word ∈ [declared.model.toList, ['='], "new".toList,
      "JsonModel.define(".toList], IsWord word := by
    simpa using ⟨name, by decide, by decide, by decide⟩
  have opening := Writes.words unit "const".toList _ (by decide) areWords ⟨0, place⟩
  have closing := (Writes.closer unit ')' (by decide) 0 false).append
    (Writes.semicolon unit 0 false)
  rw [safe.rendered]
  cases made : declared.fields with
  | nil =>
      have empty := Writes.emptyBraces unit [' ', ' '] (by simp [Text.isBlank])
        ⟨0, .inLine false⟩
      have written := opening.append (empty.append closing)
      simpa [declarationText, declaration, made, factoryName] using written
  | cons first others =>
      have own := safe.fields
      rw [made] at own
      have body := Writes.openBrace
        (head?_ink_fields (own first (List.mem_cons_self ..)).1 others) ⟨0, .inLine false⟩
        ((Writes.space unit ⟨1, .lineStart false⟩).append (writes_fields unit own))
      have ended := (Writes.space unit ⟨1, .inLine true⟩).append (Writes.closeBrace unit 0 true)
      have written := opening.append (body.append (ended.append closing))
      simpa [declarationText, declaration, made, factoryName] using written

end Printed

end ModelScribe

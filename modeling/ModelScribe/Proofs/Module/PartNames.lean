import ModelScribe.Proofs.Module.PrintedModule
import ModelScribe.Proofs.Module.Separation
import ModelScribe.Proofs.Text.BoundNames

/-! # Names that the parts of a module bind

The import binds the constructor and each declaration its model, both as the parts
are assembled and as they are printed; header and export bind nothing. Names are to
be identifiers (`ModelScribe.IsBindingName`), since what a text binds ends where an
identifier ends.
-/

namespace ModelScribe

open Text

/-- A name of one identifier's characters. -/
def IsBindingName (name : String) : Prop :=
  name ≠ "" ∧ ∀ character ∈ name.toList, inIdentifier character = true

instance (name : String) : Decidable (IsBindingName name) :=
  @instDecidableAnd _ _ _ (List.decidableBAll _ name.toList)

/-- Identifiers have neither blanks nor the characters that the layout looks at. -/
theorem Text.isSafe_of_inIdentifier {character : Char} (inside : inIdentifier character = true) :
    isBlank character = false ∧
      character ∉ ['\'', '"', '`', '/', '{', '}', ',', ';', ')', ']'] := by
  constructor
  · simp only [inIdentifier, Bool.or_eq_true, Bool.and_eq_true, beq_iff_eq] at inside
    rcases inside with (ascii | rfl) | ⟨⟨-, inked⟩, -⟩
    · exact isBlank_of_isAsciiWord ascii
    · decide
    · simpa using inked
  · intro mark
    simp only [List.mem_cons, List.not_mem_nil, or_false] at mark
    rcases mark with rfl | rfl | rfl | rfl | rfl | rfl | rfl | rfl | rfl | rfl
    all_goals exact absurd inside (by decide)

namespace IsBindingName

variable {name : String}

/-- An identifier is a safe name. -/
theorem isSafeName (identifier : IsBindingName name) : IsSafeName name :=
  ⟨identifier.1, fun character member => isSafe_of_inIdentifier (identifier.2 character member)⟩

theorem inked (identifier : IsBindingName name) :
    ∀ character ∈ name.toList, isBlank character = false :=
  fun character member => (isSafe_of_inIdentifier (identifier.2 character member)).1

theorem nonempty (identifier : IsBindingName name) : name.toList ≠ [] :=
  fun empty => identifier.1 (String.toList_eq_nil_iff.mp empty)

/-- A model under an identifier is named by one. -/
theorem nestedModel {key : String} (identifier : IsBindingName key) :
    IsBindingName (nestedModel key) := by
  have model : IsBindingName "Model" := by decide
  refine ⟨fun empty => identifier.1 (String.append_eq_empty_iff.mp empty).1, ?_⟩
  intro character member
  rw [ModelScribe.nestedModel, String.toList_append] at member
  rcases List.mem_append.mp member with member | member
  · exact identifier.2 character member
  · exact model.2 character member

end IsBindingName

namespace Printed

variable {model : String}

/-- The line that a declaration begins on binds its name. -/
theorem boundNames_opening (convention : Convention) (identifier : IsBindingName model)
    {rest : List Char} (inLine : '\n' ∉ rest) :
    boundNames ((nested convention ++ "const " ++ model).toList ++ ' ' :: rest) = [model] := by
  have name := words_word identifier.nonempty identifier.inked rest
  have keyword := words_keyword (by decide : "const" ∈ _)
    (model.toList ++ ' ' :: rest)
  have exported := words_keyword (by decide : "export" ∈ _)
    ("const".toList ++ ' ' :: (model.toList ++ ' ' :: rest))
  have identified : model.toList.takeWhile inIdentifier = model.toList :=
    List.takeWhile_eq_self_iff.mpr identifier.2
  have noFeed : '\n' ∉ model.toList := fun member =>
    absurd (identifier.inked _ member) (by decide)
  have whole : '\n' ∉ (nested convention ++ "const " ++ model).toList ++ ' ' :: rest := by
    cases convention <;> simp [nested, noFeed, inLine]
  have read : bound? (words ((nested convention ++ "const " ++ model).toList ++ ' ' :: rest)) =
      some (String.ofList (model.toList.takeWhile inIdentifier)) := by
    cases convention with
    | cjs =>
        have line : (nested .cjs ++ "const " ++ model).toList ++ ' ' :: rest =
            "const".toList ++ ' ' :: (model.toList ++ ' ' :: rest) := by
          simp [nested]
        rw [line, keyword, name]
        rfl
    | esm =>
        have line : (nested .esm ++ "const " ++ model).toList ++ ' ' :: rest =
            "export".toList ++ ' ' :: ("const".toList ++ ' ' :: (model.toList ++ ' ' :: rest)) := by
          simp [nested]
        rw [line, exported, keyword, name]
        rfl
  rw [boundNames_of_inLine whole, read, identified, String.ofList_toList]
  rfl

/-- The text of a type is on one line. -/
theorem lineFeed_not_mem_text {type : FieldType} (safe : type.IsSafe) :
    '\n' ∉ type.text.toList := by
  have bare : ∀ type : FieldType, type.IsSafe → '\n' ∉ type.bareText.toList :=
    fun _ safe member => absurd ((isWord_bareText safe).2 _ member).1 (by decide)
  cases type with
  | primitive kind => cases kind <;> decide
  | array item =>
      have inside : '\n' ∉ item.bareText.toList := bare item safe
      simp [FieldType.text, inside]
  | reference model => exact bare _ safe
  | object => decide
  | untyped => decide

theorem lineFeed_not_mem_of_isSafeName {name : String} (safe : IsSafeName name) :
    '\n' ∉ name.toList :=
  fun member => absurd (safe.2 _ member).1 (by decide)

/-- A character that no text has, nor the separator, is not in the texts joined. -/
theorem not_mem_intercalate {character : Char} {separator : List Char} {texts : List (List Char)}
    (between : character ∉ separator) (apart : ∀ text ∈ texts, character ∉ text) :
    character ∉ List.intercalate separator texts := by
  induction texts with
  | nil => simp
  | cons text texts ih =>
      obtain ⟨own, others⟩ := List.forall_mem_cons.mp apart
      cases texts with
      | nil => simpa using own
      | cons next more =>
          rw [List.intercalate_cons_cons, List.append_assoc, List.mem_append, List.mem_append]
          rintro (inside | inside | inside)
          · exact own inside
          · exact between inside
          · exact ih others inside

/-- Fields as they are assembled are on one line. -/
theorem lineFeed_not_mem_fields {fields : List Field}
    (safe : ∀ field ∈ fields, IsSafeName field.key ∧ field.type.IsSafe) :
    '\n' ∉ (String.intercalate "," (fields.map Field.text)).toList := by
  have alone : ∀ field ∈ fields, '\n' ∉ field.text.toList := by
    intro field member
    have key := lineFeed_not_mem_of_isSafeName (safe field member).1
    have type := lineFeed_not_mem_text (safe field member).2
    simp [Field.text, key, type]
  rw [String.toList_intercalate]
  refine not_mem_intercalate (by decide) fun text member => ?_
  obtain ⟨_, assembled, rfl⟩ := List.mem_map.mp member
  obtain ⟨field, among, rfl⟩ := List.mem_map.mp assembled
  exact alone field among

/-- A declaration binds its name where it is assembled on one line. -/
theorem boundNames_rendered (convention : Convention) {declared : Declaration}
    (safe : declared.IsSafe) (identifier : IsBindingName declared.model) :
    boundNames (nested convention ++ declared.rendered).toList = [declared.model] := by
  have fields := lineFeed_not_mem_fields safe.fields
  have line : (nested convention ++ declared.rendered).toList =
      (nested convention ++ "const " ++ declared.model).toList ++ ' ' ::
        ("= new JsonModel.define(\x7b ".toList ++
          ((String.intercalate "," (declared.fields.map Field.text)).toList ++
            " \x7d);".toList)) := by
    simp [safe.rendered, declarationText, factoryName]
  rw [line]
  refine boundNames_opening convention identifier ?_
  simp only [List.mem_append, not_or]
  exact ⟨by decide, fields, by decide⟩

section Blocks

variable {unit : List Char} (indents : IsIndentation unit)

include indents

/-- The lines of a printed field bind nothing. -/
theorem boundNames_field {one : Field} (safe : IsSafeName one.key ∧ one.type.IsSafe)
    {after : List Char} (closes : after = [] ∨ after = [',']) :
    boundNames ((field (String.ofList unit) one).toList ++ after) = [] := by
  have lines : (field (String.ofList unit) one).toList ++ after =
      (unit ++ ((one.key.toList ++ [':']) ++ ' ' :: ['\x7b'])) ++ '\n' ::
        ((unit ++ (unit ++ ("type:".toList ++ ' ' :: one.type.text.toList))) ++ '\n' ::
          (unit ++ '\x7d' :: after)) := by
    simp [field]
  have key : boundNames ((one.key.toList ++ [':']) ++ ' ' :: ['\x7b']) = [] := by
    have apart : ∀ keyword ∈ ["export".toList, "const".toList, "import".toList],
        ':' ∉ keyword := by
      decide
    -- A key may be a keyword itself, but the word that it begins ends in a colon.
    refine boundNames_silent (fun member => ?_) (by simp) ?_ (by decide)
    · exact apart _ member (List.mem_append_right _ (List.mem_singleton_self _))
    · intro character member
      rcases List.mem_append.mp member with inside | colon
      · exact (safe.1.2 character inside).1
      · rw [List.mem_singleton.mp colon]
        decide
  have type : boundNames ("type:".toList ++ ' ' :: one.type.text.toList) = [] :=
    boundNames_silent (by decide) (by decide) (inked_of_any (by decide))
      (lineFeed_not_mem_text safe.2)
  have last : boundNames ('\x7d' :: after) = [] := by
    rcases closes with rfl | rfl <;> decide
  rw [lines, boundNames_append_lineFeed, boundNames_append_lineFeed, boundNames_indentation indents,
    boundNames_indentation indents, boundNames_indentation indents, boundNames_indentation indents,
    key, type, last]
  rfl

/-- The lines of fields bind nothing. -/
theorem boundNames_fields {fields : List Field}
    (safe : ∀ field ∈ fields, IsSafeName field.key ∧ field.type.IsSafe) :
    boundNames (String.intercalate ",\n" (fields.map (field (String.ofList unit)))).toList =
      [] := by
  have alone : ∀ text ∈ (fields.map (field (String.ofList unit))).map String.toList,
      boundNames (text ++ []) = [] ∧ boundNames (text ++ [',']) = [] := by
    intro text member
    obtain ⟨_, printed, rfl⟩ := List.mem_map.mp member
    obtain ⟨one, among, rfl⟩ := List.mem_map.mp printed
    exact ⟨boundNames_field indents (safe one among) (.inl rfl),
      boundNames_field indents (safe one among) (.inr rfl)⟩
  simp only [List.append_nil] at alone
  have joined := @boundNames_intercalate [','] [] _
    (fun text member => (alone text member).2.trans (alone text member).1.symm) fun _ => rfl
  rw [String.toList_intercalate]
  refine joined.trans (List.flatMap_eq_nil_iff.mpr fun text member => (alone text member).1)

/-- A declaration binds its name where it is printed over several lines. -/
theorem boundNames_block (convention : Convention) {declared : Declaration}
    (safe : declared.IsSafe) (identifier : IsBindingName declared.model) :
    boundNames (nested convention ++ declaration (String.ofList unit) declared).toList =
      [declared.model] := by
  by_cases none : declared.fields = []
  · have line : (nested convention ++ declaration (String.ofList unit) declared).toList =
        (nested convention ++ "const " ++ declared.model).toList ++ ' ' ::
          "= new JsonModel.define(\x7b\x7d);".toList := by
      simp [declaration, none]
    rw [line]
    exact boundNames_opening convention identifier (by decide)
  · have lines : (nested convention ++ declaration (String.ofList unit) declared).toList =
        ((nested convention ++ "const " ++ declared.model).toList ++ ' ' ::
          "= new JsonModel.define(\x7b".toList) ++ '\n' ::
          ((String.intercalate ",\n" (declared.fields.map (field (String.ofList unit)))).toList ++
            '\n' :: "\x7d);".toList) := by
      simp [declaration, none]
    have last : boundNames "\x7d);".toList = [] := by decide
    rw [lines, boundNames_append_lineFeed, boundNames_append_lineFeed,
      boundNames_opening convention identifier (by decide), boundNames_fields indents safe.fields,
      last]
    rfl

end Blocks

/-- Lines that bind nothing by themselves bind nothing together. -/
theorem boundNames_lines {lines : List String}
    (silent : ∀ line ∈ lines, boundNames line.toList = []) :
    boundNames (String.intercalate "\n" lines).toList = [] := by
  have joined := @boundNames_intercalate [] [] (lines.map String.toList)
    (fun text _ => by rw [List.append_nil]) fun _ => rfl
  rw [String.toList_intercalate]
  exact joined.trans (List.flatMap_eq_nil_iff.mpr (List.forall_mem_map.mpr silent))

/-- A line of a header binds nothing behind its star. -/
theorem boundNames_starred {indentation rest : String} (indents : IsIndentation indentation.toList)
    (inLine : '\n' ∉ rest.toList) : boundNames (indentation ++ "* " ++ rest).toList = [] := by
  have line : (indentation ++ "* " ++ rest).toList =
      indentation.toList ++ ("*".toList ++ ' ' :: rest.toList) := by
    simp
  rw [line, boundNames_indentation indents]
  exact boundNames_silent (by decide) (by decide) (inked_of_any (by decide)) inLine

/-- A header binds nothing, as it is printed and as it is assembled. -/
theorem boundNames_header (stamp : Stamp) :
    boundNames (header stamp).toList = [] ∧ boundNames (headerPart stamp).toList = [] := by
  have year := (Stamp.isMarked_toString stamp.year).apart.1
  have time := stamp.isMarked_text.apart.1
  unfold header headerOf headerPart
  generalize toString stamp.year = shownYear at year
  generalize stamp.text = shownTime at time
  have starred : ∀ indentation rest : String, IsIndentation indentation.toList →
      '\n' ∉ rest.toList → boundNames (indentation ++ "* " ++ rest).toList = [] :=
    fun _ _ => boundNames_starred
  have one : IsIndentation " ".toList := by simp [IsIndentation, isBlank]
  have two : IsIndentation "  ".toList := by simp [IsIndentation, isBlank]
  have copyright : '\n' ∉ ("Copyright " ++ shownYear ++ " jsonmodel-js").toList := by simp [year]
  have generated : '\n' ∉ ("Auto-generated: " ++ shownTime).toList := by simp [time]
  have spaced : '\n' ∉ ("Auto-generated: " ++ shownTime ++ " ").toList := by simp [time]
  constructor
  · refine boundNames_lines (List.forall_mem_cons.mpr ⟨by decide, List.forall_mem_cons.mpr ⟨?_,
      List.forall_mem_cons.mpr ⟨?_, by decide⟩⟩⟩)
    · simpa [String.append_assoc] using starred _ _ one copyright
    · simpa [String.append_assoc] using starred _ _ one generated
  · refine boundNames_lines (List.forall_mem_cons.mpr ⟨by decide, List.forall_mem_cons.mpr
      ⟨by decide, List.forall_mem_cons.mpr ⟨?_, List.forall_mem_cons.mpr ⟨?_, by decide⟩⟩⟩⟩)
    · simpa [String.append_assoc] using starred _ _ two copyright
    · simpa [String.append_assoc] using starred _ _ two spaced

/-- The import binds the constructor. -/
theorem boundNames_importOf (convention : Convention) :
    boundNames (importOf convention).toList = [factoryName] := by
  cases convention <;> decide

/-- The export binds nothing. -/
theorem boundNames_exportOf (convention : Convention) (identifier : IsBindingName model) :
    boundNames (exportOf convention (some model)).toList = [] := by
  have inLine : '\n' ∉ model.toList := lineFeed_not_mem_of_isSafeName identifier.isSafeName
  cases convention with
  | cjs =>
      have line : (exportOf .cjs (some model)).toList =
          "module.exports".toList ++ ' ' :: ("= ".toList ++ (model.toList ++ [';'])) := by
        show ("module.exports = " ++ model ++ ";").toList = _
        simp
      rw [line]
      exact boundNames_silent (by decide) (by decide) (inked_of_any (by decide)) (by simp [inLine])
  | esm =>
      have line : (exportOf .esm (some model)).toList =
          "export".toList ++ ' ' :: ("default".toList ++ ' ' :: (model.toList ++ [';'])) := by
        show ("export default " ++ model ++ ";").toList = _
        simp
      have whole : '\n' ∉ (exportOf .esm (some model)).toList := by
        rw [line]
        simp [inLine]
      have keyword := words_keyword (by decide : "export" ∈ _)
        ("default".toList ++ ' ' :: (model.toList ++ [';']))
      have default := words_keyword (by decide : "default" ∈ _)
        (model.toList ++ [';'])
      rw [boundNames_of_inLine whole, line, keyword, default]
      rfl

/-- Declarations bind their names, in order, if each binds its own with and without an export. -/
theorem boundNames_declarations {models : List Declaration} {text : Declaration → String}
    (binds : ∀ declared ∈ models, ∀ convention,
      boundNames (nested convention ++ text declared).toList = [declared.model])
    (convention : Convention) :
    (models.dropLast.map (fun declared => nested convention ++ text declared) ++
        (models.getLast?.map text).toList).flatMap (fun text => boundNames text.toList) =
      models.map Declaration.model := by
  induction models with
  | nil => rfl
  | cons declared models ih =>
      obtain ⟨own, others⟩ := List.forall_mem_cons.mp binds
      cases models with
      | nil =>
          have last := own .cjs
          rw [show nested .cjs ++ text declared = text declared from String.empty_append] at last
          exact (List.flatMap_singleton ..).trans last
      | cons next more =>
          rw [List.dropLast_cons_cons, List.getLast?_cons_cons, List.map_cons, List.cons_append,
            List.flatMap_cons, own convention, ih others]
          rfl

/-- The parts of a module with the import bind the constructor and the declared models. -/
theorem boundNames_parts {header : List String}
    (silent : ∀ text ∈ header, boundNames text.toList = [])
    {models : List Declaration} {text : Declaration → String}
    (binds : ∀ declared ∈ models, ∀ convention,
      boundNames (nested convention ++ text declared).toList = [declared.model])
    (convention : Convention) (identifier : IsBindingName model) :
    ((header ++ [importOf convention] ++
        (models.dropLast.map (fun declared => nested convention ++ text declared) ++
          (models.getLast?.map text).toList) ++
        [exportOf convention (some model)]).map String.toList).flatMap boundNames =
      factoryName :: models.map Declaration.model := by
  rw [List.flatMap_map, List.flatMap_append, List.flatMap_append, List.flatMap_append,
    boundNames_declarations binds convention, List.flatMap_eq_nil_iff.mpr silent]
  simp [boundNames_importOf, boundNames_exportOf convention identifier]

end Printed

end ModelScribe

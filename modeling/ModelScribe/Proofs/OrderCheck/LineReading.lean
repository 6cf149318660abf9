import ModelScribe.OrderCheck
import ModelScribe.Proofs.Module.HeaderBlock

/-! # What the order check reads on a line

The lines of a printed module, one kind after the other: which models the order
check finds referred to and declared on each (`ModelScribe.OrderCheck.Reads`).
Both are found behind a mark, so a line without one of the mark's characters shows
nothing, and what stands before the mark does not matter.
-/

namespace ModelScribe

/-- A name of ASCII letters, digits and low lines. -/
def IsPlainName (name : String) : Prop :=
  name ≠ "" ∧ ∀ character ∈ name.toList, Text.isAsciiWord character = true

instance (name : String) : Decidable (IsPlainName name) :=
  @instDecidableAnd _ _ _ (List.decidableBAll _ name.toList)

namespace IsPlainName

variable {name : String}

/-- A plain name is safe. -/
theorem isSafeName (plain : IsPlainName name) : IsSafeName name := by
  refine ⟨plain.1, fun character member => ?_⟩
  have ascii := plain.2 character member
  refine ⟨Text.isBlank_of_isAsciiWord ascii, fun mark => ?_⟩
  simp only [List.mem_cons, List.not_mem_nil, or_false] at mark
  rcases mark with rfl | rfl | rfl | rfl | rfl | rfl | rfl | rfl | rfl | rfl
  all_goals exact absurd ascii (by decide)

/-- A plain name is one word. -/
theorem isWord (plain : IsPlainName name) :
    ∀ character ∈ name.toList, Text.isWord character = true :=
  fun character member => Text.isWord_of_isAsciiWord (plain.2 character member)

/-- A model under a plain key has a plain name. -/
theorem nestedModel {key : String} (plain : IsPlainName key) : IsPlainName (nestedModel key) := by
  have model : IsPlainName "Model" := by decide
  refine ⟨fun empty => plain.1 (String.append_eq_empty_iff.mp empty).1, fun character member => ?_⟩
  rw [ModelScribe.nestedModel, String.toList_append] at member
  rcases List.mem_append.mp member with member | member
  · exact plain.2 character member
  · exact model.2 character member

end IsPlainName

namespace OrderCheck

/-- A text has none of some characters. -/
def Lacks (marks text : List Char) : Prop :=
  ∀ mark ∈ marks, mark ∉ text

instance (marks text : List Char) : Decidable (Lacks marks text) :=
  List.decidableBAll _ marks

/-- Marks that two texts lack are lacking in both together. -/
theorem Lacks.append {marks first second : List Char} (one : Lacks marks first)
    (other : Lacks marks second) : Lacks marks (first ++ second) := by
  intro mark member
  rw [List.mem_append, not_or]
  exact ⟨one mark member, other mark member⟩

/-- A word lacks marks that are no characters of words. -/
theorem lacks_of_named {marks word : List Char}
    (named : ∀ character ∈ word, Text.isWord character = true)
    (others : marks.any Text.isWord = false) : Lacks marks word := by
  intro mark member inside
  exact List.any_eq_false.mp others mark member (named mark inside)

/-- No reference begins in a text without one of the characters that introduce it. -/
theorem referenceAt?_eq_none {mark : Char} (marks : mark ∈ typeMark) {text : List Char}
    (apart : mark ∉ text) : referenceAt? text = none := by
  rw [referenceAt?, if_neg]
  intro begins
  have starts := List.isPrefixOf_iff_prefix.mp begins
  exact apart (starts.subset marks)

/-- A line without a character of the mark refers to nothing. -/
theorem referencesIn_of_not_mem {mark : Char} (marks : mark ∈ typeMark) {text : List Char}
    (apart : mark ∉ text) (fuel : Nat) : referencesIn fuel text = [] := by
  induction text generalizing fuel with
  | nil => cases fuel <;> rfl
  | cons character rest ih =>
      cases fuel with
      | zero => rfl
      | succ fuel =>
          rw [referencesIn, referenceAt?_eq_none marks apart]
          exact ih (List.not_mem_of_not_mem_cons apart) fuel

/-- What stands before the first character of the mark does not matter. -/
theorem referencesIn_append {before : List Char} (apart : 't' ∉ before) (fuel : Nat)
    (rest : List Char) :
    referencesIn (before.length + fuel) (before ++ rest) = referencesIn fuel rest := by
  induction before with
  | nil => rw [List.length_nil, Nat.zero_add, List.nil_append]
  | cons character before ih =>
      obtain ⟨different, others⟩ := not_or.mp (mt List.mem_cons.mpr apart)
      have starts : typeMark.isPrefixOf (character :: (before ++ rest)) = false := by
        simp [typeMark, List.isPrefixOf, different]
      rw [List.length_cons, Nat.succ_add, List.cons_append, referencesIn, referenceAt?, starts]
      exact ih others

/-- Before a colon only `type` makes a mark. -/
theorem eq_type_of_isPrefixOf {before rest : List Char} (apart : ':' ∉ before)
    (starts : typeMark.isPrefixOf (before ++ ':' :: rest) = true) : before = "type".toList := by
  obtain ⟨more, same⟩ := List.isPrefixOf_iff_prefix.mp starts
  have noColon : ∀ character ∈ before, (character != ':') = true := by
    intro character member
    rw [bne_iff_ne]
    rintro rfl
    exact apart member
  have cut := congrArg (List.takeWhile (· != ':')) same
  rw [List.takeWhile_append_of_pos noColon] at cut
  simpa [typeMark] using cut.symm

/-- A line with one colon refers to something only behind a mark right there. -/
theorem referencesIn_of_colon {before rest : List Char} (apart : ':' ∉ before) (last : ':' ∉ rest)
    (nothing : referenceAt? ("type".toList ++ ':' :: rest) = none) (fuel : Nat) :
    referencesIn fuel (before ++ ':' :: rest) = [] := by
  induction before generalizing fuel with
  | nil =>
      cases fuel with
      | zero => rfl
      | succ fuel => exact referencesIn_of_not_mem (by decide) last fuel
  | cons character before ih =>
      cases fuel with
      | zero => rfl
      | succ fuel =>
          have here : referenceAt? (character :: (before ++ ':' :: rest)) = none := by
            by_cases starts : typeMark.isPrefixOf (character :: before ++ ':' :: rest) = true
            · have whole := eq_type_of_isPrefixOf apart starts
              rw [← List.cons_append, whole]
              exact nothing
            · rw [← List.cons_append, referenceAt?, if_neg starts]
          rw [List.cons_append, referencesIn, here]
          exact ih (List.not_mem_of_not_mem_cons apart) fuel

/-- No declaration begins in a text without one of the characters that it needs. -/
theorem declarationAt?_eq_none {mark : Char} (marks : mark ∈ declarationMark ++ factoryMark)
    {text : List Char} (apart : mark ∉ text) : declarationAt? text = none := by
  unfold declarationAt?
  split
  · next starts =>
      dsimp only
      split
      · next follows =>
          have first := (List.isPrefixOf_iff_prefix.mp starts).subset
          have second := (List.isPrefixOf_iff_prefix.mp follows.2).subset
          rcases List.mem_append.mp marks with marks | marks
          · exact absurd (first marks) apart
          · exact absurd (List.mem_of_mem_drop (List.mem_of_mem_drop (second marks))) apart
      · rfl
  · rfl

/-- A line without a character of the marks declares nothing. -/
theorem declared?_of_not_mem {mark : Char} (marks : mark ∈ declarationMark ++ factoryMark)
    {line : List Char} (apart : mark ∉ line) : declared? line = none := by
  induction line with
  | nil => rfl
  | cons character rest ih =>
      rw [declared?, declarationAt?_eq_none marks apart]
      exact ih (List.not_mem_of_not_mem_cons apart)

/-- What stands before the first character of the mark does not matter. -/
theorem declared?_append {before : List Char} (apart : 'c' ∉ before) (rest : List Char) :
    declared? (before ++ rest) = declared? rest := by
  induction before with
  | nil => rfl
  | cons character before ih =>
      obtain ⟨different, others⟩ := not_or.mp (mt List.mem_cons.mpr apart)
      have starts : declarationMark.isPrefixOf (character :: (before ++ rest)) = false := by
        simp [declarationMark, List.isPrefixOf, different]
      rw [List.cons_append, declared?, declarationAt?, starts]
      exact ih others

/-- What the order check finds on a line, which is a line by itself. -/
structure Reads (line : List Char) (references : List (List Char)) (model : Option (List Char)) :
    Prop where
  whole : '\n' ∉ line ∧ '\r' ∉ line
  referenced : referenced line = references
  declared : declared? line = model

theorem Lacks.whole {line marks : List Char} (lacks : Lacks ('\n' :: '\r' :: marks) line) :
    '\n' ∉ line ∧ '\r' ∉ line :=
  ⟨lacks _ List.mem_cons_self, lacks _ (List.mem_cons_of_mem _ List.mem_cons_self)⟩

/-- A line without colon and equals sign has neither references nor a declaration. -/
theorem Reads.plain {line : List Char} (lacks : Lacks ['\n', '\r', ':', '='] line) :
    Reads line [] none where
  whole := lacks.whole
  referenced := referencesIn_of_not_mem (by decide) (lacks ':' (by decide)) _
  declared := declared?_of_not_mem (by decide) (lacks '=' (by decide))

end OrderCheck

/-- The model that a type refers to. -/
def FieldType.model? (type : FieldType) : Option String :=
  match type.innermost with
  | .reference model => some model
  | _ => none

/-- The models that a type refers to are named after plain keys. -/
def FieldType.IsPlain (type : FieldType) : Prop :=
  ∀ model, type.innermost = .reference model → ∃ key, IsPlainName key ∧ model = nestedModel key

namespace OrderCheck

variable {type : FieldType}

/-- The bare text of a plain type is made of characters of words. -/
theorem isWord_bareText (plain : type.IsPlain) :
    ∀ character ∈ type.bareText.toList, Text.isWord character = true := by
  induction type with
  | primitive kind => cases kind <;> exact List.all_eq_true.mp rfl
  | object => exact List.all_eq_true.mp rfl
  | reference model =>
      obtain ⟨key, plainKey, rfl⟩ := plain model rfl
      exact plainKey.nestedModel.isWord
  | array item ih => exact ih plain
  | untyped => exact List.all_eq_true.mp rfl

/-- A name made from a key is read as a whole. -/
theorem modelPart?_nestedModel {key : String} (nonempty : key ≠ "") :
    modelPart? (nestedModel key).toList = some (nestedModel key).toList := by
  have long : 0 < key.toList.length :=
    List.length_pos_iff.mpr fun empty => nonempty (String.toList_eq_nil_iff.mp empty)
  have name : (nestedModel key).toList = key.toList ++ modelMark := by
    rw [nestedModel, String.toList_append]
    rfl
  have ends : modelMark.isSuffixOf (key.toList ++ modelMark) = true :=
    List.isSuffixOf_iff_suffix.mpr (List.suffix_append _ _)
  have enough : modelMark.length < (key.toList ++ modelMark).length := by
    rw [List.length_append]
    omega
  rw [name, modelPart?, List.range_succ, List.reverse_append, List.reverse_singleton,
    List.singleton_append, List.findSome?_cons, List.take_length, if_pos ⟨enough, ends⟩]

/-- The model in the bare text of a type is the model that the type refers to. -/
theorem modelPart?_bareText (plain : type.IsPlain) :
    modelPart? type.bareText.toList = type.model?.map String.toList := by
  induction type with
  | primitive kind => cases kind <;> decide
  | object => decide
  | reference model =>
      obtain ⟨key, plainKey, rfl⟩ := plain model rfl
      exact modelPart?_nestedModel plainKey.1
  | array item ih => exact ih plain
  | untyped => decide

/-- A word is taken up to the first character that is none of a word's. -/
theorem takeWhile_isWord {word after : List Char}
    (named : ∀ character ∈ word, Text.isWord character = true)
    (stops : ∀ next ∈ after.head?, Text.isWord next = false) :
    (word ++ after).takeWhile Text.isWord = word := by
  rw [List.takeWhile_append_of_pos named]
  cases after with
  | nil => simp
  | cons next rest => simp [stops next rfl]

/-- Behind the mark, with or without a bracket, a name is read to its end. -/
theorem referenceAt?_type {opening word after : List Char} (opens : opening = [] ∨ opening = ['['])
    (named : ∀ character ∈ word, Text.isWord character = true)
    (stops : ∀ next ∈ after.head?, Text.isWord next = false) (noBracket : after.head? ≠ some '[') :
    referenceAt? (typeMark ++ (opening ++ (word ++ after))) =
      (modelPart? word).map fun name => (name, (word ++ after).drop name.length) := by
  have starts : typeMark.isPrefixOf (typeMark ++ (opening ++ (word ++ after))) = true :=
    List.isPrefixOf_iff_prefix.mpr (List.prefix_append _ _)
  rw [referenceAt?, if_pos starts, List.drop_left]
  rcases opens with rfl | rfl
  · have unopened : ∀ rest, word ++ after ≠ '[' :: rest := by
      intro rest same
      cases word with
      | nil => exact noBracket (by rw [← List.nil_append after, same]; rfl)
      | cons first word =>
          have bracket := named first (List.mem_cons_self ..)
          rw [(List.cons.inj same).1] at bracket
          exact absurd bracket (by decide)
    dsimp only [List.nil_append]
    split
    · next rest same => exact absurd same (unopened rest)
    · rw [takeWhile_isWord named stops]
  · show Option.map (fun name => (name, (word ++ after).drop name.length))
      (modelPart? ((word ++ after).takeWhile Text.isWord)) = _
    rw [takeWhile_isWord named stops]

/-- A type is read as the model that its name ends with. -/
theorem referencesIn_type {opening word after : List Char} (opens : opening = [] ∨ opening = ['['])
    (named : ∀ character ∈ word, Text.isWord character = true) (closes : after = [] ∨ after = [']'])
    (fuel : Nat) :
    referencesIn (fuel + 1) (typeMark ++ (opening ++ (word ++ after))) =
      (modelPart? word).toList := by
  have stops : ∀ next ∈ after.head?, Text.isWord next = false := by
    rcases closes with rfl | rfl
    · simp
    · simpa using (by decide : Text.isWord ']' = false)
  have noBracket : after.head? ≠ some '[' := by
    rcases closes with rfl | rfl <;> decide
  have noColon : ':' ∉ opening ++ (word ++ after) := by
    have lacks : Lacks [':'] word := lacks_of_named named rfl
    have inside : ':' ∉ word := lacks ':' List.mem_cons_self
    rcases opens with rfl | rfl <;> rcases closes with rfl | rfl <;> simp [inside]
  have read := referenceAt?_type opens named stops noBracket
  cases part : modelPart? word with
  | none =>
      rw [part] at read
      have last : ':' ∉ ' ' :: (opening ++ (word ++ after)) := by simpa using noColon
      have type : ':' ∉ "type".toList := by decide
      exact referencesIn_of_colon type last read (fuel + 1)
  | some name =>
      rw [part] at read
      have rest : referencesIn fuel ((word ++ after).drop name.length) = [] := by
        apply referencesIn_of_not_mem (by decide : ':' ∈ typeMark)
        intro member
        exact noColon (List.mem_append_right _ (List.mem_of_mem_drop member))
      rw [show typeMark = 't' :: ['y', 'p', 'e', ':', ' '] from rfl] at read ⊢
      rw [List.cons_append] at read ⊢
      rw [referencesIn, read]
      exact congrArg (name :: ·) rest

/-- Behind indentation, a type is read as the model that it refers to. -/
theorem referenced_typeLine (plain : type.IsPlain) {indentation : List Char}
    (apart : 't' ∉ indentation) :
    referenced (indentation ++ (typeMark ++ type.text.toList)) =
      (type.model?.map String.toList).toList := by
  have named := isWord_bareText plain
  have indented : ∀ text, referenced (indentation ++ (typeMark ++ text)) =
      referencesIn (text.length + 5 + 1) (typeMark ++ text) := by
    intro text
    rw [referenced, List.length_append, referencesIn_append apart, List.length_append,
      Nat.add_comm]
    rfl
  have bare : ∀ {opening after : List Char}, opening = [] ∨ opening = ['['] →
      after = [] ∨ after = [']'] →
      referenced (indentation ++ (typeMark ++ (opening ++ (type.bareText.toList ++ after)))) =
        (type.model?.map String.toList).toList := by
    intro opening after opens closes
    rw [indented, referencesIn_type opens named closes, modelPart?_bareText plain]
  have alone := bare (.inl rfl) (.inl rfl)
  rw [List.nil_append, List.append_nil] at alone
  cases type with
  | primitive kind =>
      rw [indented]
      cases kind <;> decide
  | array item =>
      have bracketed := bare (.inr rfl) (.inr rfl)
      have text : (FieldType.array item).text.toList =
          ['['] ++ ((FieldType.array item).bareText.toList ++ [']']) := by
        simp [FieldType.text, FieldType.bareText]
      rw [text]
      exact bracketed
  | object => exact alone
  | reference model => exact alone
  | untyped => exact alone

/-- The text of a plain type lacks marks that are neither in words nor around types. -/
theorem lacks_text (plain : type.IsPlain) {marks : List Char}
    (others : marks.any Text.isWord = false) (apart : Lacks marks ['\'', '[', ']']) :
    Lacks marks type.text.toList := by
  have bare : Lacks marks type.bareText.toList := lacks_of_named (isWord_bareText plain) others
  have enclosed {first last : Char} (opens : first ∈ ['\'', '[', ']'])
      (closes : last ∈ ['\'', '[', ']']) :
      Lacks marks ([first] ++ (type.bareText.toList ++ [last])) := by
    have alone {character : Char} (among : character ∈ ['\'', '[', ']']) :
        Lacks marks [character] := by
      intro mark member inside
      rw [List.mem_singleton.mp inside] at member
      exact apart character member among
    exact (alone opens).append (bare.append (alone closes))
  cases type with
  | primitive kind =>
      have text : (FieldType.primitive kind).text.toList =
          ['\''] ++ ((FieldType.primitive kind).bareText.toList ++ ['\'']) := by
        simp [FieldType.text, FieldType.bareText]
      rw [text]
      exact enclosed (by decide) (by decide)
  | array item =>
      have text : (FieldType.array item).text.toList =
          ['['] ++ ((FieldType.array item).bareText.toList ++ [']']) := by
        simp [FieldType.text, FieldType.bareText]
      rw [text]
      exact enclosed (by decide) (by decide)
  | object => exact bare
  | reference model => exact bare
  | untyped => exact bare

section Lines

variable {unit : List Char} (indents : ∀ character ∈ unit, character = ' ' ∨ character = '\t')

include indents in
/-- The indentation lacks everything but spaces and tabs. -/
theorem lacks_unit {marks : List Char} (others : Lacks marks [' ', '\t']) : Lacks marks unit := by
  intro mark member inside
  have blank : mark ∈ [' ', '\t'] := by simpa using indents mark inside
  exact others mark member blank

include indents in
/-- The line of a type has a reference, if the type refers to a model, and no declaration. -/
theorem reads_typeLine (plain : type.IsPlain) :
    Reads (unit ++ unit ++ (typeMark ++ type.text.toList)) (type.model?.map String.toList).toList
      none := by
  have indented : Lacks ['\n', '\r', '=', 't'] (unit ++ unit) := by
    have outside : Lacks ['\n', '\r', '=', 't'] unit := lacks_unit indents (by decide)
    exact outside.append outside
  have mark : Lacks ['\n', '\r', '='] typeMark := by decide
  have text : Lacks ['\n', '\r', '='] type.text.toList := lacks_text plain rfl (by decide)
  have lacks : Lacks ['\n', '\r', '='] (unit ++ unit ++ (typeMark ++ type.text.toList)) := by
    apply Lacks.append _ (mark.append text)
    exact fun mark member => indented mark (List.mem_append_left ['t'] member)
  refine ⟨lacks.whole, referenced_typeLine plain (indented 't' (by decide)), ?_⟩
  exact declared?_of_not_mem (by decide) (lacks '=' (by decide))

include indents in
/-- The line that opens a field has neither references nor a declaration. -/
theorem reads_keyLine {key : String} (plain : IsPlainName key) :
    Reads (unit ++ (key.toList ++ [':', ' ', '{'])) [] none := by
  have before : Lacks ['\n', '\r', '=', ':'] (unit ++ key.toList) :=
    (lacks_unit indents (by decide)).append (lacks_of_named plain.isWord rfl)
  have lacks : Lacks ['\n', '\r', '='] (unit ++ key.toList ++ [':', ' ', '{']) := by
    apply Lacks.append _ (by decide)
    exact fun mark member => before mark (List.mem_append_left [':'] member)
  rw [← List.append_assoc]
  refine ⟨lacks.whole, referencesIn_of_colon (before ':' (by decide)) (by decide) (by decide) _, ?_⟩
  exact declared?_of_not_mem (by decide) (lacks '=' (by decide))

include indents in
/-- The line that closes a field has neither references nor a declaration. -/
theorem reads_closeLine {rest : List Char} (closes : rest = ['}'] ∨ rest = ['}', ',']) :
    Reads (unit ++ rest) [] none := by
  apply Reads.plain
  apply Lacks.append (lacks_unit indents (by decide))
  rcases closes with rfl | rfl <;> decide

end Lines

/-- The line that a declaration begins with. -/
theorem reads_declarationLine {model : String} (plain : IsPlainName model)
    {before after : List Char} (begins : before = [] ∨ before = "export ".toList)
    (ends : after = ['(', '{'] ∨ after = ['(', '{', '}', ')', ';']) :
    Reads (before ++ (declarationMark ++ (model.toList ++ (factoryMark ++ after)))) []
      (some model.toList) := by
  have lacks : Lacks ['\n', '\r', ':']
      (before ++ (declarationMark ++ (model.toList ++ (factoryMark ++ after)))) := by
    have first : Lacks ['\n', '\r', ':'] before := by
      rcases begins with rfl | rfl <;> decide
    have mark : Lacks ['\n', '\r', ':'] declarationMark := by decide
    have name : Lacks ['\n', '\r', ':'] model.toList := lacks_of_named plain.isWord rfl
    have call : Lacks ['\n', '\r', ':'] factoryMark := by decide
    have last : Lacks ['\n', '\r', ':'] after := by
      rcases ends with rfl | rfl <;> decide
    exact first.append (mark.append (name.append (call.append last)))
  refine ⟨lacks.whole, referencesIn_of_not_mem (by decide) (lacks ':' (by decide)) _, ?_⟩
  have noC : 'c' ∉ before := by
    rcases begins with rfl | rfl <;> decide
  have starts : declarationMark.isPrefixOf
      (declarationMark ++ (model.toList ++ (factoryMark ++ after))) = true :=
    List.isPrefixOf_iff_prefix.mpr (List.prefix_append _ _)
  have stops : ∀ next ∈ (factoryMark ++ after).head?, Text.isWord next = false := by
    intro next first
    have blank : (factoryMark ++ after).head? = some ' ' := rfl
    rw [blank] at first
    cases first
    rfl
  have name : (model.toList ++ (factoryMark ++ after)).takeWhile Text.isWord = model.toList :=
    takeWhile_isWord plain.isWord stops
  have follows : factoryMark.isPrefixOf (factoryMark ++ after) = true :=
    List.isPrefixOf_iff_prefix.mpr (List.prefix_append _ _)
  have nonempty : model.toList.isEmpty = false :=
    List.isEmpty_eq_false_iff.mpr fun empty => plain.1 (String.toList_eq_nil_iff.mp empty)
  have here : declarationAt? (declarationMark ++ (model.toList ++ (factoryMark ++ after))) =
      some model.toList := by
    rw [declarationAt?, if_pos starts, List.drop_left]
    dsimp only
    rw [name, List.drop_left, if_pos ⟨by rw [nonempty]; rfl, follows⟩]
  rw [declared?_append noC]
  rw [show declarationMark = 'c' :: ['o', 'n', 's', 't', ' '] from rfl, List.cons_append] at here ⊢
  rw [declared?, here]

/-- The import has neither references nor a declaration. -/
theorem reads_import (convention : Convention) :
    Reads (Printed.importOf convention).toList [] none := by
  cases convention with
  | cjs => exact ⟨by decide, by decide, by decide⟩
  | esm => exact ⟨by decide, by decide, by decide⟩

/-- The export has the letters of a declaration's mark only before the name, and no name of that
mark has a space behind it. -/
theorem reads_export (convention : Convention) {root : String} (plain : IsPlainName root) :
    Reads (Printed.exportOf convention (some root)).toList [] none := by
  obtain ⟨before, noC, first, whole⟩ : ∃ before : List Char, 'c' ∉ before ∧
      Lacks ['\n', '\r', ':'] before ∧
      (Printed.exportOf convention (some root)).toList = before ++ (root.toList ++ [';']) := by
    cases convention with
    | cjs =>
        refine ⟨"module.exports = ".toList, by decide, by decide, ?_⟩
        show ("module.exports = " ++ root ++ ";").toList = _
        simp
    | esm =>
        refine ⟨"export default ".toList, by decide, by decide, ?_⟩
        show ("export default " ++ root ++ ";").toList = _
        simp
  have named : Lacks ['\n', '\r', ':', ' '] (root.toList ++ [';']) :=
    (lacks_of_named plain.isWord rfl).append (by decide)
  have lacks : Lacks ['\n', '\r', ':'] (before ++ (root.toList ++ [';'])) := by
    apply first.append
    exact fun mark member => named mark (List.mem_append_left [' '] member)
  rw [whole]
  refine ⟨lacks.whole, referencesIn_of_not_mem (by decide) (lacks ':' (by decide)) _, ?_⟩
  rw [declared?_append noC]
  exact declared?_of_not_mem (by decide) (named ' ' (by decide))

/-- A year has nothing of what makes references and declarations. -/
theorem lacks_year (year : Int) : Lacks ['\n', '\r', ':', '='] (toString year).toList := by
  have digits (value : Nat) : Lacks ['\n', '\r', ':', '='] (Nat.repr value).toList := by
    intro mark member inside
    have others : ['\n', '\r', ':', '='].any Char.isDigit = false := rfl
    exact List.any_eq_false.mp others mark member (Stamp.isDigit_of_mem_toString inside)
  cases year with
  | ofNat value => exact digits value
  | negSucc value =>
      show Lacks _ ("-" ++ Nat.repr (value + 1)).toList
      rw [String.toList_append]
      exact Lacks.append (by decide) (digits (value + 1))

/-- A stamp has nothing of what makes declarations, and lacks a letter that references need. -/
theorem lacks_stamp (stamp : Stamp) : Lacks ['\n', '\r', '=', 'y'] stamp.text.toList := by
  have digits : ['\n', '\r', '=', 'y'].any Char.isDigit = false := rfl
  have signs : Lacks ['\n', '\r', '=', 'y'] ['-', '+', '/', ':', ' '] := by decide
  intro mark member inside
  rcases stamp.isMarked_text mark inside with digit | sign
  · exact List.any_eq_false.mp digits mark member digit
  · exact signs mark member sign

/-- No line of a header shows a model. -/
theorem reads_headerLines (stamp : Stamp) :
    ∀ line ∈ ["/**", " * Copyright " ++ toString stamp.year ++ " jsonmodel-js",
      " * Auto-generated: " ++ stamp.text, " *", " * @author jsonmodel-gen", " */"],
      Reads line.toList [] none := by
  intro line member
  simp only [List.mem_cons, List.not_mem_nil, or_false] at member
  rcases member with rfl | rfl | rfl | rfl | rfl | rfl
  · exact .plain (by decide)
  · rw [String.toList_append, String.toList_append]
    apply Reads.plain
    exact (Lacks.append (by decide) (lacks_year stamp.year)).append (by decide)
  · -- a time has colons in it, but the mark of a type has letters that the line lacks
    rw [String.toList_append]
    have lacks : Lacks ['\n', '\r', '=', 'y'] (" * Auto-generated: ".toList ++ stamp.text.toList) :=
      Lacks.append (by decide) (lacks_stamp stamp)
    refine ⟨lacks.whole, referencesIn_of_not_mem (by decide) (lacks 'y' (by decide)) _, ?_⟩
    exact declared?_of_not_mem (by decide) (lacks '=' (by decide))
  · exact .plain (by decide)
  · exact .plain (by decide)
  · exact .plain (by decide)

end OrderCheck

end ModelScribe

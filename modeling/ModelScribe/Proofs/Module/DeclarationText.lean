import Mathlib.Data.List.Basic
import ModelScribe.Proofs.Registry.Appending

/-! # Reading declarations back

The text of a declaration says all there is to know of its model and fields, but
for the number of arrays around a type
(`ModelScribe.declarationText_eq_iff`). It is read from left to right: a name ends
at the first character that is none of a name's, and so does the text of a type.

Names are to be identifiers (`ModelScribe.IsIdentifier`) and types are to be those
that the fields of a sample have (`ModelScribe.FieldType.IsRecorded`).
-/

namespace ModelScribe

/-- A name of ASCII letters, digits, low lines and dollar signs. -/
def IsIdentifier (name : String) : Prop :=
  name ≠ "" ∧ ∀ character ∈ name.toList,
    (character.isAlphanum || character == '_' || character == '$') = true

instance (name : String) : Decidable (IsIdentifier name) :=
  @instDecidableAnd _ _ _ (List.decidableBAll _ name.toList)

namespace IsIdentifier

variable {name : String}

/-- An identifier has none of the characters that end or enclose one. -/
theorem lacks (named : IsIdentifier name) {mark : Char}
    (marks : mark ∈ [' ', ':', '\'', '[', '}']) : mark ∉ name.toList := by
  intro member
  have letter := named.2 mark member
  simp only [List.mem_cons, List.not_mem_nil, or_false] at marks
  rcases marks with rfl | rfl | rfl | rfl | rfl <;> exact absurd letter (by decide)

/-- A model under an identifier is named by one. -/
theorem nestedModel {key : String} (named : IsIdentifier key) : IsIdentifier (nestedModel key) := by
  have model : IsIdentifier "Model" := by decide
  refine ⟨fun empty => named.1 (String.append_eq_empty_iff.mp empty).1, fun character member => ?_⟩
  rw [ModelScribe.nestedModel, String.toList_append] at member
  rcases List.mem_append.mp member with member | member
  · exact named.2 character member
  · exact model.2 character member

end IsIdentifier

/-- What stands before the first of some mark is read off a text. -/
theorem Text.append_mark_inj {mark : Char} {first second rest more : List Char}
    (lacks : mark ∉ first) (otherLacks : mark ∉ second)
    (same : first ++ mark :: rest = second ++ mark :: more) : first = second ∧ rest = more := by
  induction first generalizing second with
  | nil =>
      cases second with
      | nil => exact ⟨rfl, (List.cons.inj same).2⟩
      | cons character second =>
          obtain ⟨rfl, _⟩ := List.cons.inj same
          exact absurd (List.mem_cons_self ..) otherLacks
  | cons character first ih =>
      cases second with
      | nil =>
          obtain ⟨rfl, _⟩ := List.cons.inj same
          exact absurd (List.mem_cons_self ..) lacks
      | cons other second =>
          obtain ⟨rfl, tails⟩ := List.cons.inj same
          obtain ⟨rfl, behind⟩ := ih (fun member => lacks (List.mem_cons_of_mem _ member))
            (fun member => otherLacks (List.mem_cons_of_mem _ member)) tails
          exact ⟨rfl, behind⟩

theorem Primitive.name_injective : Function.Injective name := by
  intro kind other
  cases kind <;> cases other <;> decide

namespace FieldType

/-- The type with any number of arrays around it read as one. -/
def flat : FieldType → FieldType
  | array (array item) => flat (array item)
  | other => other

/-- The types of the innermost items of arrays. -/
inductive IsElement : FieldType → Prop
  | primitive (kind : Primitive) : IsElement (primitive kind)
  | reference {key : String} (named : IsIdentifier key) : IsElement (reference (nestedModel key))
  | untyped : IsElement untyped

/-- The types that fields have: those of innermost items, in arrays nested at will, but never a type
that says nothing. -/
inductive IsRecorded : FieldType → Prop
  | plain {type : FieldType} (element : IsElement type) (typed : type ≠ untyped) : IsRecorded type
  | row {item : FieldType} (element : IsElement item) : IsRecorded (array item)
  | rows {item : FieldType} (recorded : IsRecorded (array item)) : IsRecorded (array (array item))

theorem flat_array (item : FieldType) : (array item).flat = array item.innermost := by
  induction item with
  | array inner ih => exact ih
  | _ => rfl

/-- The text of a type does not tell how many arrays there are around it. -/
theorem text_flat (type : FieldType) : type.flat.text = type.text := by
  cases type with
  | array item => rw [flat_array, text, text, bareText_innermost]
  | _ => rfl

variable {type other : FieldType}

theorem IsElement.innermost_eq (element : IsElement type) : type.innermost = type := by
  cases element <;> rfl

/-- What is inside the arrays of a recorded type is an element's type. -/
theorem IsRecorded.isElement_innermost {item : FieldType} (recorded : IsRecorded (array item)) :
    IsElement item.innermost := by
  generalize shape : array item = type at recorded
  induction recorded generalizing item with
  | plain element typed =>
      subst shape
      cases element
  | row element =>
      obtain rfl := array.inj shape
      rwa [element.innermost_eq]
  | @rows inner recorded ih =>
      obtain rfl := array.inj shape
      exact @ih inner rfl

/-- The type of an item is recorded in an array, even if it says nothing. -/
theorem isRecorded_array_infer {key : String} (named : IsIdentifier key) (value : Json) :
    (array ((infer value).nameObject (nestedModel key))).IsRecorded := by
  fun_induction infer value with
  | case1 text => exact .row (.primitive _)
  | case2 value => exact .row (.primitive _)
  | case3 value => exact .row (.primitive _)
  | case4 members => exact .row (.reference named)
  | case5 => exact .rows (.row .untyped)
  | case6 first others ih => exact .rows ih
  | case7 => exact .row .untyped

/-- The type of the value of a key is recorded, unless it says nothing. -/
theorem isRecorded_infer {key : String} (named : IsIdentifier key) {value : Json}
    (something : value ≠ .null) :
    ((infer value).nameObject (nestedModel key)).IsRecorded := by
  cases value with
  | null => exact absurd rfl something
  | array items =>
      cases items with
      | nil => exact .row .untyped
      | cons first others => exact isRecorded_array_infer named first
  | object members => exact .plain (.reference named) FieldType.noConfusion
  | _ => exact .plain (.primitive _) FieldType.noConfusion

/-- No model is named like a primitive type. -/
theorem nestedModel_ne_name (key : String) (kind : Primitive) : nestedModel key ≠ kind.name := by
  intro same
  have last := congrArg (fun text => text.toList.getLast?) same
  cases kind <;> simp [nestedModel, Primitive.name] at last

/-- No model is named like the missing type. -/
theorem nestedModel_ne_null (key : String) : nestedModel key ≠ "null" := by
  intro same
  have length := congrArg String.length same
  have longer : (nestedModel key).length = key.length + 5 := String.length_append ..
  have four : "null".length = 4 := rfl
  omega

/-- Innermost items are told apart by their texts. -/
theorem IsElement.eq_of_bareText (element : IsElement type) (otherElement : IsElement other)
    (same : type.bareText = other.bareText) : type = other := by
  cases element with
  | primitive kind =>
      cases otherElement with
      | primitive kind' => exact congrArg FieldType.primitive (Primitive.name_injective same)
      | @reference key named => exact absurd same.symm (nestedModel_ne_name key kind)
      | untyped => cases kind <;> exact absurd same (by decide)
  | @reference key named =>
      cases otherElement with
      | primitive kind => exact absurd same (nestedModel_ne_name key kind)
      | reference named' => exact congrArg FieldType.reference same
      | untyped => exact absurd same (nestedModel_ne_null key)
  | untyped =>
      cases otherElement with
      | primitive kind => cases kind <;> exact absurd same (by decide)
      | @reference key named => exact absurd same.symm (nestedModel_ne_null key)
      | untyped => rfl

/-- The bare text of an element's type has none of the marks around it. -/
theorem IsElement.lacks_bareText (element : IsElement type) {mark : Char}
    (marks : mark ∈ [' ', ':', '\'', '[', '}']) : mark ∉ type.bareText.toList := by
  cases element with
  | reference named => exact named.nestedModel.lacks marks
  | primitive kind =>
      have named : IsIdentifier kind.name := by cases kind <;> decide
      exact named.lacks marks
  | untyped =>
      have named : IsIdentifier "null" := by decide
      exact named.lacks marks

/-- A recorded type is a primitive or a model, or in arrays. -/
theorem IsRecorded.shape (recorded : IsRecorded type) :
    (∃ kind, type = .primitive kind) ∨
      (∃ key, IsIdentifier key ∧ type = .reference (nestedModel key)) ∨
      ∃ item, IsElement item.innermost ∧ type = .array item := by
  cases recorded with
  | plain element typed =>
      cases element with
      | primitive kind => exact .inl ⟨kind, rfl⟩
      | @reference key named => exact .inr (.inl ⟨key, named, rfl⟩)
      | untyped => exact absurd rfl typed
  | @row item element => exact .inr (.inr ⟨item, element.innermost_eq.symm ▸ element, rfl⟩)
  | @rows item recorded => exact .inr (.inr ⟨array item, recorded.isElement_innermost, rfl⟩)

theorem quote_mem_text (kind : Primitive) : '\'' ∈ (primitive kind).text.toList := by
  simp [text]

theorem bracket_mem_text (item : FieldType) : '[' ∈ (array item).text.toList := by
  simp [text]

/-- Brackets enclose nothing that ends or encloses a name. -/
theorem IsElement.lacks_text {item : FieldType} (element : IsElement item.innermost) {mark : Char}
    (marks : mark ∈ [' ', ':', '\'', '}']) : mark ∉ (array item).text.toList := by
  have inner : mark ∉ item.bareText.toList := by
    rw [← bareText_innermost]
    apply element.lacks_bareText
    simp only [List.mem_cons, List.not_mem_nil, or_false] at marks ⊢
    tauto
  simp only [List.mem_cons, List.not_mem_nil, or_false] at marks
  rcases marks with rfl | rfl | rfl | rfl <;> simp [text, inner]

/-- No space is part of the text of a type. -/
theorem IsRecorded.space_not_mem_text (recorded : IsRecorded type) : ' ' ∉ type.text.toList := by
  rcases recorded.shape with ⟨kind, rfl⟩ | ⟨key, named, rfl⟩ | ⟨item, element, rfl⟩
  · cases kind <;> decide
  · exact named.nestedModel.lacks (by decide)
  · exact element.lacks_text (by decide)

/-- **Types read back.** Types have the same text only if they are the same but for the number of
arrays around them. -/
theorem IsRecorded.flat_eq_of_text (recorded : IsRecorded type) (otherRecorded : IsRecorded other)
    (same : type.text = other.text) : type.flat = other.flat := by
  -- quotes, brackets and letters tell the three shapes apart
  rcases recorded.shape with ⟨kind, rfl⟩ | ⟨key, named, rfl⟩ | ⟨item, element, rfl⟩
  · have quote := same ▸ quote_mem_text kind
    rcases otherRecorded.shape with ⟨kind', rfl⟩ | ⟨key', named', rfl⟩ | ⟨item', element', rfl⟩
    · have names : kind.name = kind'.name := by simpa [text] using same
      rw [Primitive.name_injective names]
    · exact absurd quote (named'.nestedModel.lacks (by decide))
    · exact absurd quote (element'.lacks_text (by decide))
  · rcases otherRecorded.shape with ⟨kind', rfl⟩ | ⟨key', named', rfl⟩ | ⟨item', element', rfl⟩
    · exact absurd (same ▸ quote_mem_text kind') (named.nestedModel.lacks (by decide))
    · exact congrArg reference same
    · exact absurd (same ▸ bracket_mem_text item') (named.nestedModel.lacks (by decide))
  · have bracket := same ▸ bracket_mem_text item
    rcases otherRecorded.shape with ⟨kind', rfl⟩ | ⟨key', named', rfl⟩ | ⟨item', element', rfl⟩
    · cases kind' <;> exact absurd bracket (by decide)
    · exact absurd bracket (named'.nestedModel.lacks (by decide))
    · have inner : item.bareText = item'.bareText := by simpa [text] using same
      rw [← bareText_innermost, ← bareText_innermost item'] at inner
      rw [flat_array, flat_array, element.eq_of_bareText element' inner]

end FieldType

namespace Field

/-- The field with any number of arrays around its type read as one. -/
def flat (field : Field) : Field := { field with type := field.type.flat }

/-- The field has a key and a type as they are recorded. -/
structure IsRecorded (field : Field) : Prop where
  key : IsIdentifier field.key
  type : field.type.IsRecorded

theorem text_flat (field : Field) : field.flat.text = field.text := by
  rw [text, flat, FieldType.text_flat]
  rfl

/-- The text of a field, character by character. -/
theorem toList_text (field : Field) :
    field.text.toList = ' ' :: (field.key.toList ++ ':' :: (" \x7b type: ".toList ++
      (field.type.text.toList ++ ' ' :: ['}', ' ']))) := by
  simp [text]

/-- The fields of a sample are recorded so, if its keys are identifiers. -/
theorem isRecorded_of_mem_ofMembers {members : List (String × Json)}
    (named : ∀ key ∈ members.map Prod.fst, IsIdentifier key) :
    ∀ field ∈ ofMembers members, field.IsRecorded := by
  intro field among
  rw [ofMembers_eq_map] at among
  obtain ⟨member, kept, rfl⟩ := List.mem_map.mp among
  obtain ⟨own, something⟩ := List.mem_filter.mp kept
  have key := named member.1 (List.mem_map_of_mem own)
  exact ⟨key, FieldType.isRecorded_infer key (of_decide_eq_true something)⟩

variable {field other : Field} {fields others : List Field} {rest more : List Char}

/-- **Fields read back.** Texts that begin with fields begin with the same one. -/
theorem flat_eq_of_text_append (recorded : field.IsRecorded) (otherRecorded : other.IsRecorded)
    (same : field.text.toList ++ rest = other.text.toList ++ more) :
    field.flat = other.flat ∧ rest = more := by
  simp only [toList_text, List.cons_append, List.append_assoc, List.cons.injEq, true_and] at same
  obtain ⟨key, typed⟩ := Text.append_mark_inj (recorded.key.lacks (by decide))
    (otherRecorded.key.lacks (by decide)) same
  obtain ⟨type, behind⟩ := Text.append_mark_inj recorded.type.space_not_mem_text
    otherRecorded.type.space_not_mem_text (List.append_cancel_left typed)
  have flat := recorded.type.flat_eq_of_text otherRecorded.type (String.toList_injective type)
  refine ⟨?_, (List.cons.inj (List.cons.inj behind).2).2⟩
  rw [Field.flat, Field.flat, flat, String.toList_injective key]

/-- What follows the first field of a declaration. -/
def behind (fields : List Field) : List Char :=
  fields.flatMap (fun field => ',' :: field.text.toList) ++ [' ', '}', ')', ';']

/-- Fields that are written alike behind a first one are alike, their arrays read as one. -/
theorem map_flat_eq_of_behind (recorded : ∀ field ∈ fields, field.IsRecorded)
    (otherRecorded : ∀ field ∈ others, field.IsRecorded) (same : behind fields = behind others) :
    fields.map flat = others.map flat := by
  induction fields generalizing others with
  | nil =>
      cases others with
      | nil => rfl
      | cons other others => exact absurd (List.cons.inj same).1 (by decide)
  | cons field fields ih =>
      cases others with
      | nil => exact absurd (List.cons.inj same).1 (by decide)
      | cons other others =>
          rw [List.forall_mem_cons] at recorded otherRecorded
          simp only [behind, List.flatMap_cons, List.append_assoc, List.cons_append,
            List.cons.injEq, true_and] at same
          obtain ⟨first, next⟩ := flat_eq_of_text_append recorded.1 otherRecorded.1 same
          rw [List.map_cons, List.map_cons, first, ih recorded.2 otherRecorded.2 next]

/-- The fields of a declaration, and what follows them. -/
def listed : List Field → List Char
  | [] => behind []
  | field :: fields => field.text.toList ++ behind fields

/-- The fields of a declaration with what closes it, as a list that can be read field by field. -/
theorem toList_joined (fields : List Field) :
    (String.intercalate "," (fields.map text) ++ " \x7d);").toList = listed fields := by
  cases fields with
  | nil => rfl
  | cons field fields =>
      induction fields generalizing field with
      | nil => simp [listed, behind]
      | cons next fields ih =>
          have onward := ih next
          simp only [List.map_cons, String.toList_append, listed, behind] at onward ⊢
          rw [String.intercalate_cons_cons, String.toList_append, String.toList_append,
            List.append_assoc, onward]
          simp

/-- A text does not begin with a field where it begins with the end of a declaration. -/
theorem behind_nil_ne (recorded : field.IsRecorded) (rest : List Char) :
    behind [] ≠ field.text.toList ++ rest := by
  obtain ⟨letter, letters, key⟩ := List.exists_cons_of_ne_nil
    fun empty => recorded.key.1 (String.toList_eq_nil_iff.mp empty)
  have brace : '}' ∉ field.key.toList := recorded.key.lacks (by decide)
  intro same
  rw [toList_text, key] at same
  obtain ⟨_, next⟩ := List.cons.inj same
  rw [key, (List.cons.inj next).1] at brace
  exact brace (List.mem_cons_self ..)

/-- Fields that are written alike are alike, their arrays read as one. -/
theorem map_flat_eq_of_listed (recorded : ∀ field ∈ fields, field.IsRecorded)
    (otherRecorded : ∀ field ∈ others, field.IsRecorded) (same : listed fields = listed others) :
    fields.map flat = others.map flat := by
  cases fields with
  | nil =>
      cases others with
      | nil => rfl
      | cons other others =>
          exact absurd same (behind_nil_ne (otherRecorded other (List.mem_cons_self ..)) _)
  | cons field fields =>
      cases others with
      | nil => exact absurd same.symm (behind_nil_ne (recorded field (List.mem_cons_self ..)) _)
      | cons other others =>
          rw [List.forall_mem_cons] at recorded otherRecorded
          obtain ⟨first, next⟩ := flat_eq_of_text_append recorded.1 otherRecorded.1 same
          rw [List.map_cons, List.map_cons, first,
            map_flat_eq_of_behind recorded.2 otherRecorded.2 next]

end Field

/-- The text of a declaration, its name before its listed fields. -/
theorem toList_declarationText (model : String) (fields : List Field) :
    (declarationText model fields).toList = "const ".toList ++ (model.toList ++ ' ' ::
      ("= new JsonModel.define(\x7b ".toList ++ Field.listed fields)) := by
  rw [← Field.toList_joined]
  simp [declarationText, factoryName]

/-- **Declarations read back.** Declarations have the same text exactly if they have the same model
and the same fields, but for the number of arrays around their types. -/
theorem declarationText_eq_iff {first second : String} {fields others : List Field}
    (named : IsIdentifier first) (otherNamed : IsIdentifier second)
    (recorded : ∀ field ∈ fields, field.IsRecorded)
    (otherRecorded : ∀ field ∈ others, field.IsRecorded) :
    declarationText first fields = declarationText second others ↔
      first = second ∧ fields.map Field.flat = others.map Field.flat := by
  constructor
  · intro same
    have whole := congrArg String.toList same
    rw [toList_declarationText, toList_declarationText] at whole
    obtain ⟨model, body⟩ := Text.append_mark_inj (named.lacks (by decide))
      (otherNamed.lacks (by decide)) (List.append_cancel_left whole)
    exact ⟨String.toList_injective model,
      Field.map_flat_eq_of_listed recorded otherRecorded (List.append_cancel_left body)⟩
  · rintro ⟨rfl, same⟩
    have texts : fields.map Field.text = others.map Field.text := by
      have flattened := congrArg (List.map Field.text) same
      simpa [Function.comp_def, Field.text_flat] using flattened
    rw [declarationText, declarationText, texts]

/-- Arrays of models, of strings and of nothing, under keys that are named as types are, against the
same but for the nesting of the arrays. -/
theorem declarationText_eq_iff_nested :
    let fields := Field.ofMembers [("type", .array [.array [.object []]]),
      ("Number", .array [.string "2"]), ("null", .array [])]
    let others := Field.ofMembers [("type", .array [.object []]),
      ("Number", .array [.array [.string "3"]]), ("null", .array [.null])]
    IsIdentifier "Root" ∧ (∀ field ∈ fields, field.IsRecorded) ∧
      (∀ field ∈ others, field.IsRecorded) ∧
      (declarationText "Root" fields = declarationText "Root" others ↔
        "Root" = "Root" ∧ fields.map Field.flat = others.map Field.flat) := by
  intro fields others
  have named : IsIdentifier "Root" := by decide
  have recorded : ∀ field ∈ fields, field.IsRecorded :=
    Field.isRecorded_of_mem_ofMembers (by decide)
  have otherRecorded : ∀ field ∈ others, field.IsRecorded :=
    Field.isRecorded_of_mem_ofMembers (by decide)
  exact ⟨named, recorded, otherRecorded, declarationText_eq_iff named named recorded otherRecorded⟩

/-- The nesting of arrays is lost. -/
example :
    declarationText "Root" [⟨"type", .array (.array (.reference "typeModel"))⟩] =
      declarationText "Root" [⟨"type", .array (.reference "typeModel")⟩] := by decide

end ModelScribe

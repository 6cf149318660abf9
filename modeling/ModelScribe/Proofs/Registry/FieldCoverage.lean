import Mathlib.Data.List.Forall2
import Mathlib.Logic.Function.Iterate
import ModelScribe.Proofs.Registry.PostOrder
import ModelScribe.Proofs.Registry.DeclarationOrder

/-! # The fields of a declaration

Each declaration in the registry of a document covers the object it was built from
(`ModelScribe.Registry.covers_object`): it has a field for each member whose value
is not null and no other, in order, and each field has the type of the value with
the object below its arrays, if there is one, named after the key. No field is left
without a type or with a nameless object in it.
-/

namespace ModelScribe

namespace FieldType

theorem depth_nameObject (model : String) (type : FieldType) :
    (type.nameObject model).depth = type.depth := by
  induction type with
  | array item ih => exact congrArg (· + 1) ih
  | _ => rfl

theorem innermost_nameObject_eq_ite (model : String) (type : FieldType) :
    (type.nameObject model).innermost =
      if type.innermost = .object then .reference model else type.innermost := by
  rw [innermost_nameObject]
  by_cases object : type.innermost = .object
  · rw [if_pos object, object]
    rfl
  · rw [if_neg object]
    cases inner : type.innermost with
    | object => exact absurd inner object
    | array item => exact absurd inner (innermost_ne_array type item)
    | _ => rfl

theorem innermost_iterate_array (depth : Nat) (type : FieldType) :
    (array^[depth] type).innermost = type.innermost := by
  induction depth with
  | zero => rfl
  | succ depth ih => rw [Function.iterate_succ_apply', innermost_array, ih]

/-- The type says something, and there is no object without a name in it, however deep in arrays:
nowhere is the name of nameless objects written. -/
structure IsResolved (type : FieldType) : Prop where
  typed : type ≠ .untyped
  named : ∀ depth, type ≠ array^[depth] .object
  written : type.bareText ≠ "Object"

end FieldType

theorem nestedModel_ne_object (key : String) : nestedModel key ≠ "Object" := by
  intro same
  have last := congrArg (fun text => text.toList.getLast?) same
  simp [nestedModel] at last

/-- The type that a field is given is resolved. -/
theorem FieldType.isResolved_nameObject_infer {value : Json} (something : value ≠ .null)
    (key : String) : ((infer value).nameObject (nestedModel key)).IsResolved := by
  have inner := innermost_nameObject_eq_ite (nestedModel key) (infer value)
  have nameless : ((infer value).nameObject (nestedModel key)).innermost ≠ .object := by
    rw [inner]
    split
    · exact FieldType.noConfusion
    · assumption
  constructor
  · intro untyped
    apply something
    rw [← infer_eq_untyped]
    cases type : infer value with
    | untyped => rfl
    | _ =>
        rw [type] at untyped
        exact absurd untyped FieldType.noConfusion
  · intro depth object
    apply nameless
    rw [object, innermost_iterate_array]
    rfl
  · rw [← bareText_innermost, inner]
    split
    · exact nestedModel_ne_object key
    · next other =>
        cases shown : (infer value).innermost with
        | object => exact absurd shown other
        | reference model => exact absurd shown (innermost_infer_ne_reference value model)
        | array item => exact absurd shown (innermost_ne_array _ item)
        | primitive kind => cases kind <;> decide
        | untyped => decide

/-- The field is that of a member: it has its key and the type of its value, in as many arrays, but
for an object, which is named after the key. -/
def Field.Describes (field : Field) (member : String × Json) : Prop :=
  field.key = member.1 ∧ field.type.depth = (FieldType.infer member.2).depth ∧
    field.type.innermost =
      if (FieldType.infer member.2).innermost = .object then .reference (nestedModel member.1)
      else (FieldType.infer member.2).innermost

/-- The field of a member describes it. -/
theorem Field.describes (member : String × Json) :
    Describes ⟨member.1, (FieldType.infer member.2).nameObject (nestedModel member.1)⟩ member :=
  ⟨rfl, FieldType.depth_nameObject _ _, FieldType.innermost_nameObject_eq_ite _ _⟩

/-- The fields of a declaration are those of the members of an object whose value is not null. -/
structure Declaration.Covers (declaration : Declaration) (members : List (String × Json)) :
    Prop where
  keys : declaration.fields.map Field.key =
    (members.filter fun member => member.2 ≠ .null).map Prod.fst
  once : (members.map Prod.fst).Nodup → (declaration.fields.map Field.key).Nodup
  types : List.Forall₂ Field.Describes declaration.fields
    (members.filter fun member => member.2 ≠ .null)
  resolved : ∀ field ∈ declaration.fields, field.type.IsResolved
  emptyArrays : ∀ key value, (key, value) ∈ members → FieldType.infer value = .array .untyped →
    ⟨key, .array .untyped⟩ ∈ declaration.fields

/-- The declaration of an object covers its members. -/
theorem Declaration.covers_of (model : String) (members : List (String × Json)) :
    (Declaration.of model (Field.ofMembers members)).Covers members := by
  have fields : (Declaration.of model (Field.ofMembers members)).fields = _ :=
    Field.ofMembers_eq_map members
  have keys : (Declaration.of model (Field.ofMembers members)).fields.map Field.key =
      (members.filter fun member => member.2 ≠ .null).map Prod.fst := by
    rw [fields, List.map_map]
    rfl
  refine ⟨keys, ?_, ?_, ?_, ?_⟩
  · intro distinct
    rw [keys]
    exact distinct.sublist (List.filter_sublist.map _)
  · rw [fields, List.forall₂_map_left_iff]
    exact List.forall₂_same.mpr fun member _ => Field.describes member
  · intro field among
    rw [fields] at among
    obtain ⟨member, kept, rfl⟩ := List.mem_map.mp among
    have something : member.2 ≠ .null := of_decide_eq_true (List.mem_filter.mp kept).2
    exact FieldType.isResolved_nameObject_infer something member.1
  · intro key value among empty
    rw [fields]
    refine List.mem_map.mpr ⟨(key, value), List.mem_filter.mpr ⟨among, ?_⟩, ?_⟩
    · apply decide_eq_true
      rintro rfl
      exact absurd empty FieldType.noConfusion
    · rw [empty]
      rfl

namespace Registry

/-- **Coverage.** Each declaration in the registry of a document covers the object on its path. -/
theorem covers_object (name : String) (sample : Json) (index : Nat) (declaration : Declaration)
    (found : (ofRoot name sample).models[index]? = some declaration) :
    ∃ path members, sample.objectPaths[index]? = some path ∧
      (Site.mk name sample).at? path = some ⟨declaration.model, .object members⟩ ∧
      declaration.Covers members := by
  cases sample with
  | object members =>
      have listed := Json.map_declarationAt_objectPaths name (.object members)
      have own := models_ofRoot name (.object members)
      rw [own] at found
      have place : ((Json.object members).objectPaths.map
          (Site.mk name (.object members)).declarationAt?)[index]? = some (some declaration) := by
        rw [listed, List.getElem?_map]
        exact congrArg (Option.map some) found
      rw [List.getElem?_map, Option.map_eq_some_iff] at place
      obtain ⟨path, here, declares⟩ := place
      obtain ⟨site, leads, made⟩ := Option.bind_eq_some_iff.mp declares
      obtain ⟨below, object, rfl⟩ := Site.declaration?_eq_some.mp made
      -- the model of the site is the one that the declaration names
      refine ⟨path, below, here, ?_, Declaration.covers_of site.model below⟩
      rw [leads, ← object]
      rfl
  | _ => exact absurd found (by simp [models_ofRoot, appended])

/-- A null is left out and an empty array kept, next to a reference through two arrays. -/
theorem covers_object_grid :
    let sample := Json.object [("gone", .null), ("list", .array []),
      ("grid", .array [.array [.object [("on", .bool true)]]])]
    let declaration := Declaration.of "Root"
      [⟨"list", .array .untyped⟩, ⟨"grid", .array (.array (.reference "gridModel"))⟩]
    (ofRoot "Root" sample).models[1]? = some declaration ∧
      ∃ path members, sample.objectPaths[1]? = some path ∧
        (Site.mk "Root" sample).at? path = some ⟨"Root", .object members⟩ ∧
        declaration.Covers members := by
  intro sample declaration
  have found : (ofRoot "Root" sample).models[1]? = some declaration := by decide
  exact ⟨found, covers_object "Root" sample 1 declaration found⟩

end Registry

end ModelScribe

import ModelScribe.Proofs.Registry.FieldCoverage

/-! # The innermost item of an array

The type of a value is read off first items, and the object to build a model from is
looked for among first items once more. Both walks end at the same item
(`ModelScribe.Json.innermost_infer_of_first`,
`ModelScribe.Json.innermost_infer_of_no_first`), so where a field refers to a model
from inside an array, that model is built when the key of the field is looked at
(`ModelScribe.Json.first_items_agree`).
-/

namespace ModelScribe

/-- The type is that of an array, however deep, with a certain type below all arrays. -/
def FieldType.IsArrayOf (type inner : FieldType) : Prop :=
  (∃ item, type = .array item) ∧ type.innermost = inner

theorem FieldType.exists_infer_eq_array {value : Json} :
    (∃ item, infer value = .array item) ↔ ∃ items, value = .array items := by
  cases value with
  | array items => cases items <;> simp [infer]
  | _ => simp [infer]

theorem FieldType.infer_eq_object {value : Json} :
    infer value = .object ↔ ∃ members, value = .object members := by
  cases value with
  | array items => cases items <;> simp [infer]
  | _ => simp [infer]

/-- What is named is an object below all arrays. -/
theorem FieldType.innermost_nameObject_infer (value : Json) (model : String) :
    ((infer value).nameObject model).innermost = .reference model ↔
      (infer value).innermost = .object := by
  rw [innermost_nameObject_eq_ite]
  split
  · next object => exact iff_of_true rfl object
  · next other => exact iff_of_false (innermost_infer_ne_reference value model) other

/-- Naming keeps arrays. -/
theorem FieldType.isArrayOf_nameObject_infer (value : Json) (model : String) :
    ((infer value).nameObject model).IsArrayOf (.reference model) ↔
      (infer value).IsArrayOf .object := by
  have outside : (∃ item, (infer value).nameObject model = .array item) ↔
      ∃ item, infer value = .array item := by
    cases infer value <;> simp [nameObject]
  rw [IsArrayOf, IsArrayOf, innermost_nameObject_infer, outside]

namespace Json

variable {value first : Json}

/-- The walk does not stop at an array. -/
theorem innermostFirst_ne_array (found : value.innermostFirst = some first) (items : List Json) :
    first ≠ .array items := by
  fun_induction innermostFirst value with
  | case1 inner others ih => exact ih found
  | case2 item others notArray =>
      obtain rfl := Option.some.inj found
      exact notArray items
  | case3 => cases found

/-- Only an array has an innermost item. -/
theorem exists_eq_array (found : value.innermostFirst = some first) :
    ∃ items, value = .array items := by
  fun_induction innermostFirst value with
  | case1 inner others => exact ⟨_, rfl⟩
  | case2 item others notArray => exact ⟨_, rfl⟩
  | case3 => cases found

/-- The type below all arrays is the type of the item that the walk ends at. -/
theorem innermost_infer_of_first (found : value.innermostFirst = some first) :
    (FieldType.infer value).innermost = FieldType.infer first := by
  fun_induction innermostFirst value with
  | case1 inner others ih => exact ih found
  | case2 item others notArray =>
      obtain rfl := Option.some.inj found
      rw [FieldType.infer, FieldType.innermost_array]
      cases item with
      | array items => exact absurd rfl (notArray items)
      | _ => rfl
  | case3 => cases found

/-- An array without an innermost item says nothing about it. -/
theorem innermost_infer_of_no_first {items : List Json}
    (ends : (array items).innermostFirst = none) :
    (FieldType.infer (.array items)).innermost = .untyped := by
  generalize whole : array items = value at ends ⊢
  fun_induction innermostFirst value generalizing items with
  | case1 inner others ih => exact ih rfl ends
  | case2 item others notArray => cases ends
  | case3 value notNested notArray =>
      subst whole
      cases items with
      | nil => rfl
      | cons first others => exact absurd rfl (notArray first others)

/-- There are objects below an array exactly where the walk ends at one. -/
theorem isArrayOf_object_infer :
    (FieldType.infer value).IsArrayOf .object ↔
      ∃ members, value.innermostFirst = some (.object members) := by
  constructor
  · rintro ⟨array, object⟩
    obtain ⟨items, rfl⟩ := FieldType.exists_infer_eq_array.mp array
    cases walk : (Json.array items).innermostFirst with
    | none =>
        rw [innermost_infer_of_no_first walk] at object
        cases object
    | some first =>
        rw [innermost_infer_of_first walk] at object
        obtain ⟨members, rfl⟩ := FieldType.infer_eq_object.mp object
        exact ⟨members, rfl⟩
  · rintro ⟨members, walk⟩
    refine ⟨FieldType.exists_infer_eq_array.mpr (exists_eq_array walk), ?_⟩
    rw [innermost_infer_of_first walk]
    rfl

end Json

namespace Build

/-- What is built for an array is built from the item that the walk ends at. -/
theorem firstModel_eq (name : String) (value : Json) (build : Build) :
    firstModel name value build =
      value.innermostFirst.elim build fun first => model name first build := by
  fun_induction Json.innermostFirst value with
  | case1 inner others ih => rw [firstModel, ih]
  | case2 item others notArray =>
      rw [firstModel]
      · rfl
      · exact notArray
  | case3 value notNested notArray =>
      rw [firstModel]
      · rfl
      · exact notArray

/-- The last declaration of what is built for an object is its own. -/
theorem root?_model_object (name : String) (members : List (String × Json)) (build : Build) :
    ((model name (.object members) build).registry.root?).map Declaration.model = some name := by
  have last : (build.below name (.object members)).registry.models.getLast? =
      some (.of name (fields name members build).1) := by
    rw [below_object, registry_declare, List.getLast?_concat]
  exact congrArg (Option.map Declaration.model) last

/-- Where there are objects below an array, the model of the innermost one is built before the next
key is looked at. -/
theorem fields_cons_of_walk {value : Json} {object : List (String × Json)}
    (walk : value.innermostFirst = some (.object object)) (name key : String)
    (members : List (String × Json)) (build : Build) :
    fields name ((key, value) :: members) build =
      (⟨key, (FieldType.infer value).nameObject (nestedModel key)⟩ ::
          (fields name members (model (nestedModel key) (.object object) build)).1,
        (fields name members (model (nestedModel key) (.object object) build)).2) := by
  obtain ⟨items, rfl⟩ := Json.exists_eq_array walk
  obtain ⟨⟨item, array⟩, inner⟩ := Json.isArrayOf_object_infer.mpr ⟨object, walk⟩
  have notObject : FieldType.infer (.array items) ≠ .object := by
    rw [array]
    exact FieldType.noConfusion
  have built : build.below (nestedModel key) (.array items) =
      model (nestedModel key) (.object object) build := by
    rw [below, if_neg notObject, if_pos inner, firstModel_eq, walk]
    rfl
  rw [fields_cons Json.noConfusion, built]

end Build

namespace Json

/-- The type of a value and the walk down its first items agree. -/
structure FirstItemsAgree (value : Json) : Prop where
  /-- The walk ends at an item that is no array and that the type below all arrays is taken from. -/
  found : ∀ first, value.innermostFirst = some first → (∀ items, first ≠ .array items) ∧
    (FieldType.infer value).innermost = FieldType.infer first
  /-- Where the walk of an array ends nowhere, the type says nothing. -/
  missing : ∀ items, value = .array items → value.innermostFirst = none →
    (FieldType.infer value).innermost = .untyped
  objects : (FieldType.infer value).IsArrayOf .object ↔
    ∃ members, value.innermostFirst = some (.object members)
  /-- Where there are objects below an array, the walk leads to the one whose model is declared
  under the name that the recorded field refers to. -/
  declared : (FieldType.infer value).IsArrayOf .object →
    ∀ (name key : String) (members : List (String × Json)) (build : Build),
      ∃ object, value.innermostFirst = some object ∧
        let built := Build.model (nestedModel key) object build
        (built.registry.root?).map Declaration.model = some (nestedModel key) ∧
          Build.fields name ((key, value) :: members) build =
            (⟨key, (FieldType.infer value).nameObject (nestedModel key)⟩ ::
                (Build.fields name members built).1,
              (Build.fields name members built).2)
  levels : ∀ model, ((FieldType.infer value).nameObject model).depth =
    (FieldType.infer value).depth
  /-- What refers to the model is what was an object below all arrays. -/
  named : ∀ model, ((FieldType.infer value).nameObject model).innermost = .reference model ↔
    (FieldType.infer value).innermost = .object
  /-- The type refers to the model from inside an array exactly where it had objects there. -/
  resolved : ∀ model, ((FieldType.infer value).nameObject model).IsArrayOf (.reference model) ↔
    (FieldType.infer value).IsArrayOf .object

/-- **First items.** The type of a value and the walk down its first items agree. -/
theorem first_items_agree (value : Json) : FirstItemsAgree value where
  found := fun first found => ⟨innermostFirst_ne_array found, innermost_infer_of_first found⟩
  missing := by
    rintro items rfl ends
    exact innermost_infer_of_no_first ends
  objects := isArrayOf_object_infer
  declared := by
    intro objects name key members build
    obtain ⟨object, walk⟩ := isArrayOf_object_infer.mp objects
    exact ⟨.object object, walk, Build.root?_model_object _ object build,
      Build.fields_cons_of_walk walk name key members build⟩
  levels := fun model => FieldType.depth_nameObject model (FieldType.infer value)
  named := FieldType.innermost_nameObject_infer value
  resolved := FieldType.isArrayOf_nameObject_infer value

end Json

end ModelScribe

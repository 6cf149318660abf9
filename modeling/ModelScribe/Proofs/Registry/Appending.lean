import ModelScribe.Registry

/-! # What building a model appends

Building a model appends declarations to a registry and leaves the rest of it
alone. What is appended does not depend on the registry
(`ModelScribe.Registry.models_build`): the models of the objects below the
sample, member by member, and the sample's own model behind them
(`ModelScribe.Json.declared`).
-/

namespace ModelScribe

/-- The field of a member, unless its value says nothing. -/
def Field.ofMember? (key : String) (value : Json) : Option Field :=
  if (FieldType.infer value).isUntyped then none
  else some ⟨key, (FieldType.infer value).nameObject (nestedModel key)⟩

/-- The fields of the members of an object. -/
def Field.ofMembers (members : List (String × Json)) : List Field :=
  members.filterMap fun member => ofMember? member.1 member.2

theorem FieldType.infer_eq_untyped {value : Json} : infer value = .untyped ↔ value = .null := by
  cases value with
  | array items => cases items <;> simp [infer]
  | _ => simp [infer]

/-- Every value but null says something. -/
theorem FieldType.isUntyped_infer {value : Json} (something : value ≠ .null) :
    (infer value).isUntyped = false := by
  simpa [isUntyped, infer_eq_untyped] using something

/-- The fields are the members whose value is not null. -/
theorem Field.ofMembers_eq_map (members : List (String × Json)) :
    ofMembers members = (members.filter fun member => member.2 ≠ .null).map fun member =>
      ⟨member.1, (FieldType.infer member.2).nameObject (nestedModel member.1)⟩ := by
  induction members with
  | nil => rfl
  | cons member members ih =>
      rw [ofMembers, List.filterMap_cons, ofMember?]
      by_cases null : member.2 = .null
      · rw [List.filter_cons_of_neg (by simp [null]), ← ih, null]
        rfl
      · rw [List.filter_cons_of_pos (by simp [null]), List.map_cons, ← ih,
          FieldType.isUntyped_infer null]
        rfl

/-- A field has the key of a member, and the type of its value with the nameless object named. -/
theorem Field.exists_of_mem_ofMembers {members : List (String × Json)} {field : Field}
    (member : field ∈ ofMembers members) :
    ∃ key value, (key, value) ∈ members ∧
      field = ⟨key, (FieldType.infer value).nameObject (nestedModel key)⟩ := by
  obtain ⟨⟨key, value⟩, among, made⟩ := List.mem_filterMap.mp member
  simp only [ofMember?] at made
  by_cases untyped : (FieldType.infer value).isUntyped = true
  · rw [if_pos untyped] at made
    cases made
  · rw [if_neg untyped] at made
    exact ⟨key, value, among, (Option.some.inj made).symm⟩

namespace Json

/-- The members of the object that a value stands for: its own, or those of its innermost first
item. -/
def target? : Json → Option (List (String × Json))
  | object members => some members
  | array (first :: _) => first.target?
  | _ => none

mutual

/-- The declarations of the object that a value stands for and of all objects below it. -/
def declared (name : String) : Json → List Declaration
  | object members => declaredBelow members ++ [.of name (Field.ofMembers members)]
  | array (first :: _) => declared name first
  | _ => []

/-- The declarations of the objects below some members. -/
def declaredBelow : List (String × Json) → List Declaration
  | [] => []
  | (key, value) :: members => declared (nestedModel key) value ++ declaredBelow members

end

/-- The objects that a value stands for are those that its type is taken from. -/
theorem innermost_infer_eq_object (value : Json) :
    (FieldType.infer value).innermost = .object ↔ value.target? ≠ none := by
  fun_induction target? value with
  | case1 members => simp [FieldType.infer, FieldType.innermost]
  | case2 first others ih => exact ih
  | case3 value notObject notArray =>
      cases value with
      | object members => exact absurd rfl (notObject members)
      | array items =>
          cases items with
          | nil => simp [FieldType.infer, FieldType.innermost]
          | cons first others => exact absurd rfl (notArray first others)
      | _ => simp [FieldType.infer, FieldType.innermost]

/-- Nothing is declared for a value that stands for no object. -/
theorem declared_eq_nil {value : Json} (none : value.target? = none) (name : String) :
    declared name value = [] := by
  fun_induction target? value with
  | case1 members => simp at none
  | case2 first others ih => exact ih none
  | case3 value notObject notArray =>
      cases value with
      | object members => exact absurd rfl (notObject members)
      | array items =>
          cases items with
          | nil => rfl
          | cons first others => exact absurd rfl (notArray first others)
      | _ => rfl

/-- The last declaration of an object is its own. -/
theorem getLast?_declared {value : Json} {members : List (String × Json)}
    (some : value.target? = some members) (name : String) :
    (declared name value).getLast? = .some (.of name (Field.ofMembers members)) := by
  fun_induction target? value with
  | case1 members =>
      obtain rfl := Option.some.inj some
      rw [declared, List.getLast?_append]
      rfl
  | case2 first others ih => exact ih some
  | case3 value notObject notArray => simp at some

end Json

namespace Build

theorem registry_declare (name : String) (fields : List Field) (build : Build) :
    (build.declare name fields).registry.models =
      build.registry.models ++ [.of name fields] := rfl

/-- A build after the value of a key has been looked at. -/
def below (name : String) (value : Json) (build : Build) : Build :=
  if FieldType.infer value = .object then model name value build
  else if (FieldType.infer value).innermost = .object then firstModel name value build
  else build

theorem below_object (name : String) (members : List (String × Json)) (build : Build) :
    build.below name (.object members) =
      (fields name members build).2.declare name (fields name members build).1 := rfl

/-- An array is looked at through its first item. -/
theorem below_array (name : String) (first : Json) (others : List Json) (build : Build) :
    build.below name (.array (first :: others)) = build.below name first := by
  cases first with
  | array items =>
      have notObject : FieldType.infer (.array items) ≠ .object := by
        cases items <;> simp [FieldType.infer]
      have outer : FieldType.infer (.array (.array items :: others)) =
          .array (FieldType.infer (.array items)) := rfl
      rw [below, outer, if_neg (by simp), FieldType.innermost_array, firstModel, below,
        if_neg notObject]
  | object members => simp [below, FieldType.infer, FieldType.innermost, firstModel]
  | _ => simp [below, FieldType.infer, FieldType.innermost]

theorem fields_null (name key : String) (members : List (String × Json)) (build : Build) :
    fields name ((key, .null) :: members) build = fields name members (build.dropKey name key) := by
  rw [fields]
  rfl

/-- A key whose value says something has a field. -/
theorem fields_cons {value : Json} (something : value ≠ .null) (name key : String)
    (members : List (String × Json)) (build : Build) :
    fields name ((key, value) :: members) build =
      (⟨key, (FieldType.infer value).nameObject (nestedModel key)⟩ ::
          (fields name members (build.below (nestedModel key) value)).1,
        (fields name members (build.below (nestedModel key) value)).2) := by
  rw [fields, FieldType.isUntyped_infer something]
  rfl

mutual

/-- What is built for a value appends the declarations of the object it stands for. -/
theorem models_below (name : String) : (value : Json) → (build : Build) →
    (build.below name value).registry.models = build.registry.models ++ Json.declared name value
  | .object members, build => by
      obtain ⟨made, below⟩ := models_fields name members build
      rw [below_object, registry_declare, made, below, List.append_assoc, Json.declared]
  | .array (first :: others), build => by
      rw [below_array, models_below name first build, Json.declared]
  | .array [], build => (List.append_nil _).symm
  | .null, build => (List.append_nil _).symm
  | .bool _, build => (List.append_nil _).symm
  | .number _, build => (List.append_nil _).symm
  | .string _, build => (List.append_nil _).symm

/-- Building the fields of a model appends the declarations of the objects below its members. -/
theorem models_fields (name : String) : (members : List (String × Json)) → (build : Build) →
    (fields name members build).1 = Field.ofMembers members ∧
      (fields name members build).2.registry.models =
        build.registry.models ++ Json.declaredBelow members
  | [], build => by simp [fields, Field.ofMembers, Json.declaredBelow]
  | (key, value) :: members, build => by
      by_cases null : value = .null
      · obtain ⟨made, below⟩ := models_fields name members (build.dropKey name key)
        subst null
        rw [fields_null]
        exact ⟨made, below⟩
      · obtain ⟨made, below⟩ :=
          models_fields name members (build.below (nestedModel key) value)
        rw [fields_cons null]
        refine ⟨?_, ?_⟩
        · simp [made, Field.ofMembers, Field.ofMember?, FieldType.isUntyped_infer null]
        · rw [below, models_below (nestedModel key) value build, List.append_assoc,
            Json.declaredBelow]

end

end Build

namespace Registry

/-- What building a model from a sample appends: nothing, unless the sample is an object. -/
def appended (name : String) : Json → List Declaration
  | .object members => Json.declared name (.object members)
  | _ => []

/-- **Appending.** Building a model leaves the registry alone but for what it appends, which depends
on the model's name and sample only. -/
theorem models_build (name : String) (sample : Json) (registry : Registry) :
    (registry.build name sample).models = registry.models ++ appended name sample := by
  cases sample with
  | object members => exact Build.models_below name (.object members) (.on registry)
  | _ => simp [build, Build.model, Build.on, appended]

end Registry

end ModelScribe

import ModelScribe.Proofs.Registry.PostOrder

/-! # The shape of a document

The shape of a document is what is left of it without its numbers, texts and
nulls, and of each of its arrays the first item only (`ModelScribe.Json.shape`).
The registry of an object is made from its shape
(`ModelScribe.Shape.declared_shape`), and the shape can be read back from it, from
the last declaration to the first (`ModelScribe.Shape.append_declared_inj`): two
objects have the same registry only if they have the same shape
(`ModelScribe.Registry.ofRoot_eq_iff_shape`).
-/

namespace ModelScribe

/-- What a registry shows of a value. -/
inductive Shape
  /-- Nothing: a null, or what an empty array is made of. -/
  | bottom
  | primitive (kind : Primitive)
  | array (item : Shape)
  | object (members : List (String × Shape))

namespace Json

mutual

/-- The shape of a value. -/
def shape : Json → Shape
  | null => .bottom
  | bool _ => .primitive .boolean
  | number _ => .primitive .number
  | string text => .primitive (.ofString text)
  | array [] => .array .bottom
  | array (first :: _) => .array first.shape
  | object members => .object (memberShapes members)

/-- The shapes of the members whose value is not null. -/
def memberShapes : List (String × Json) → List (String × Shape)
  | [] => []
  | (key, value) :: members =>
      if value = .null then memberShapes members else (key, value.shape) :: memberShapes members

end

end Json

namespace Shape

/-- The type of a value of a shape. -/
def type : Shape → FieldType
  | bottom => .untyped
  | primitive kind => .primitive kind
  | array item => .array item.type
  | object _ => .object

/-- The fields of the model of an object of a shape. -/
def fields (members : List (String × Shape)) : List Field :=
  members.map fun member => ⟨member.1, member.2.type.nameObject (nestedModel member.1)⟩

mutual

/-- The declarations of the object that a value of a shape stands for. -/
def declared (name : String) : Shape → List Declaration
  | object members => declaredBelow members ++ [.of name (fields members)]
  | array item => declared name item
  | _ => []

def declaredBelow : List (String × Shape) → List Declaration
  | [] => []
  | (key, shape) :: members => declared (nestedModel key) shape ++ declaredBelow members

end

theorem type_shape (value : Json) : value.shape.type = .infer value := by
  fun_induction FieldType.infer value with
  | case6 first others ih => rw [Json.shape, type, ih]
  | _ => rfl

theorem memberShapes_eq_map (members : List (String × Json)) :
    Json.memberShapes members =
      (members.filter fun member => member.2 ≠ .null).map fun member =>
        (member.1, member.2.shape) := by
  induction members with
  | nil => rfl
  | cons member members ih =>
      obtain ⟨key, value⟩ := member
      by_cases null : value = .null
      · rw [Json.memberShapes, if_pos null, ih, List.filter_cons_of_neg (by simp [null])]
      · rw [Json.memberShapes, if_neg null, ih, List.filter_cons_of_pos (by simp [null]),
          List.map_cons]

theorem fields_memberShapes (members : List (String × Json)) :
    fields (Json.memberShapes members) = Field.ofMembers members := by
  rw [memberShapes_eq_map, Field.ofMembers_eq_map, fields, List.map_map]
  apply List.map_congr_left
  intro member _
  simp only [Function.comp_apply, type_shape]

mutual

/-- **Noninterference.** What is declared for a value depends on its shape only. -/
theorem declared_shape (name : String) : (value : Json) →
    value.shape.declared name = Json.declared name value
  | .object members => by
      rw [Json.shape, declared, declaredBelow_memberShapes members, fields_memberShapes,
        Json.declared]
  | .array (first :: others) => by
      rw [Json.shape, declared, declared_shape name first, Json.declared]
  | .array [] => rfl
  | .null => rfl
  | .bool _ => rfl
  | .number _ => rfl
  | .string _ => rfl

theorem declaredBelow_memberShapes : (members : List (String × Json)) →
    declaredBelow (Json.memberShapes members) = Json.declaredBelow members
  | [] => rfl
  | (key, value) :: members => by
      have own := declared_shape (nestedModel key) value
      have others := declaredBelow_memberShapes members
      rw [Json.memberShapes, Json.declaredBelow, ← own, ← others]
      by_cases null : value = .null
      · rw [if_pos null, null]
        rfl
      · rw [if_neg null, declaredBelow]

end

mutual

/-- **Reading back.** The declarations of a value whose type is known show its shape, whatever is
declared before them. They are read from the last one on, since the fields of a declaration tell
which objects were declared before it. -/
theorem append_declared_inj (name : String) : (first second : Shape) →
    first.type.nameObject name = second.type.nameObject name →
    {before earlier : List Declaration} →
    before ++ declared name first = earlier ++ declared name second →
    first = second ∧ before = earlier
  | .object members, second, sameType, before, earlier, same => by
      cases second with
      | object others =>
          rw [declared, declared, ← List.append_assoc, ← List.append_assoc] at same
          obtain ⟨below, own⟩ := List.append_inj' same rfl
          have sameFields := congrArg Declaration.fields (List.cons.inj own).1
          obtain ⟨rfl, rfl⟩ := append_declaredBelow_inj members others sameFields below
          exact ⟨rfl, rfl⟩
      | _ => exact absurd sameType FieldType.noConfusion
  | .array item, second, sameType, before, earlier, same => by
      cases second with
      | array other =>
          have inner := FieldType.array.inj sameType
          obtain ⟨rfl, rfl⟩ := append_declared_inj name item other inner same
          exact ⟨rfl, rfl⟩
      | _ => exact absurd sameType FieldType.noConfusion
  | .bottom, second, sameType, before, earlier, same => by
      cases second with
      | bottom => exact ⟨rfl, List.append_cancel_right same⟩
      | _ => exact absurd sameType FieldType.noConfusion
  | .primitive kind, second, sameType, before, earlier, same => by
      cases second with
      | primitive other =>
          obtain rfl := FieldType.primitive.inj sameType
          exact ⟨rfl, List.append_cancel_right same⟩
      | _ => exact absurd sameType FieldType.noConfusion

theorem append_declaredBelow_inj : (members others : List (String × Shape)) →
    fields members = fields others → {before earlier : List Declaration} →
    before ++ declaredBelow members = earlier ++ declaredBelow others →
    members = others ∧ before = earlier
  | [], others, sameFields, before, earlier, same => by
      obtain rfl := List.map_eq_nil_iff.mp sameFields.symm
      exact ⟨rfl, List.append_cancel_right same⟩
  | (key, shape) :: members, others, sameFields, before, earlier, same => by
      cases others with
      | nil => exact absurd sameFields (List.cons_ne_nil _ _)
      | cons other others =>
          obtain ⟨otherKey, otherShape⟩ := other
          obtain ⟨own, rest⟩ := List.cons.inj sameFields
          obtain ⟨rfl, sameType⟩ := Field.mk.inj own
          -- the declarations below the last member stand last
          rw [declaredBelow, declaredBelow, ← List.append_assoc, ← List.append_assoc] at same
          obtain ⟨rfl, below⟩ := append_declaredBelow_inj members others rest same
          obtain ⟨rfl, rfl⟩ := append_declared_inj _ shape otherShape sameType below
          exact ⟨rfl, rfl⟩

end

end Shape

namespace Registry

theorem models_ofRoot_object (name : String) (members : List (String × Json)) :
    (ofRoot name (.object members)).models = (Json.object members).shape.declared name := by
  rw [Shape.declared_shape]
  exact models_ofRoot name (.object members)

/-- **Registries and shapes.** Two objects, each under a name, have the same registry if and only if
the names are the same and the shapes are. -/
theorem ofRoot_eq_iff_shape (first second : String) (members others : List (String × Json)) :
    ofRoot first (.object members) = ofRoot second (.object others) ↔
      first = second ∧ (Json.object members).shape = (Json.object others).shape := by
  rw [Registry.mk.injEq, models_ofRoot_object, models_ofRoot_object]
  constructor
  · intro same
    obtain rfl : first = second := by
      rw [Json.shape, Json.shape, Shape.declared, Shape.declared] at same
      have own := (List.append_inj' same rfl).2
      exact congrArg Declaration.model (List.cons.inj own).1
    have alone : [] ++ (Json.object members).shape.declared first =
        [] ++ (Json.object others).shape.declared first := same
    have read := Shape.append_declared_inj first (Json.object members).shape
      (Json.object others).shape rfl alone
    exact ⟨rfl, read.1⟩
  · rintro ⟨rfl, same⟩
    rw [same]

/-- Of an array of objects only the first is looked at, and of numbers none. -/
example :
    ofRoot "Root" (.object [("a", .array [.object [("x", .number (.integer 1))]])]) =
      ofRoot "Root" (.object [("n", .null), ("a", .array [.object [("x", .number (.integer 2))],
        .object [("y", .bool true)]])]) := by
  decide

end Registry

end ModelScribe

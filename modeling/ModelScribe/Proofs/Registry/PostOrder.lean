import ModelScribe.Proofs.Registry.ObjectPaths

/-! # Registries in post-order

Building a model appends to a registry what it makes of the sample alone, and this
is made up of what it makes of the objects below each key, one after the other,
and of the sample's own declaration (`ModelScribe.Registry.build_postOrder`).
-/

namespace ModelScribe

namespace Json

/-- A value declares what the object that it stands for declares. -/
theorem declared_of_target {value : Json} {members : List (String × Json)}
    (some : value.target? = some members) (name : String) :
    declared name value = declared name (.object members) := by
  fun_induction target? value with
  | case1 members => rw [Option.some.inj some]
  | case2 first others ih => exact ih some
  | case3 value notObject notArray => simp at some

end Json

namespace Registry

theorem models_ofRoot (name : String) (sample : Json) :
    (ofRoot name sample).models = appended name sample :=
  models_build name sample empty

/-- The models of the object that the value of a key stands for, built by itself. -/
def modelsBelow (member : String × Json) : List Declaration :=
  match member.2.target? with
  | some target => (ofRoot (nestedModel member.1) (.object target)).models
  | none => []

theorem declaredBelow_eq_flatMap (members : List (String × Json)) :
    Json.declaredBelow members = members.flatMap modelsBelow := by
  induction members with
  | nil => rfl
  | cons member members ih =>
      obtain ⟨key, value⟩ := member
      rw [Json.declaredBelow, List.flatMap_cons, ih, modelsBelow]
      cases target : value.target? with
      | none => rw [Json.declared_eq_nil target]
      | some below =>
          rw [Json.declared_of_target target]
          simp only [models_ofRoot, appended]

/-- **Post-order.** Building a model leaves a registry as it was and appends what it makes of the
sample alone: nothing, unless the sample is an object, and else the models below each of its keys,
as they are built by themselves, and its own. So each object of the sample has one declaration, and
nothing else has. -/
theorem build_postOrder (name : String) (sample : Json) (registry : Registry) :
    (registry.build name sample).models = registry.models ++ (ofRoot name sample).models ∧
      match sample with
      | .object members =>
          (ofRoot name sample).models = members.flatMap modelsBelow ++
              [⟨name, Field.ofMembers members, declarationText name (Field.ofMembers members)⟩] ∧
            sample.objectPaths.Nodup ∧
            (∀ path, path ∈ sample.objectPaths ↔
              ∃ model below, (Site.mk name sample).at? path = some ⟨model, .object below⟩) ∧
            (ofRoot name sample).models.map some =
              sample.objectPaths.map (Site.mk name sample).declarationAt?
      | _ => (ofRoot name sample).models = [] := by
  refine ⟨by rw [models_build, models_ofRoot], ?_⟩
  cases sample with
  | object members =>
      have own : (ofRoot name (.object members)).models = Json.declared name (.object members) :=
        models_ofRoot name (.object members)
      refine ⟨?_, Json.nodup_objectPaths _, fun path => ?_, ?_⟩
      · rw [own, Json.declared, declaredBelow_eq_flatMap]
        rfl
      · exact @Json.mem_objectPaths path ⟨name, .object members⟩
      · rw [own, Json.map_declarationAt_objectPaths]
  | _ => rfl

end Registry

end ModelScribe

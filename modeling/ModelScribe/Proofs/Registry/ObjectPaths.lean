import Mathlib.Data.List.Nodup
import ModelScribe.Proofs.Registry.Appending

/-! # The objects of a document

The objects that are reached from a value through members of objects and first
items of arrays, each by its path, inner objects first
(`ModelScribe.Json.objectPaths`). Every such object has one path in the list and
nothing else has (`ModelScribe.Json.mem_objectPaths`), and the declarations of a
value are those of the objects on its paths, one for one
(`ModelScribe.Json.map_declarationAt_objectPaths`).
-/

namespace ModelScribe

/-- A step into a value. -/
inductive Step
  /-- To the member of an object at a place. -/
  | member (place : Nat)
  /-- To the first item of an array. -/
  | first
  deriving DecidableEq

/-- A value in a document, with the name that a model of it has. -/
structure Site where
  model : String
  value : Json
  deriving DecidableEq

namespace Site

/-- What a step leads to. The value of a key is named after the key, and a first item is named as
its array. -/
def step? : Step → Site → Option Site
  | .member place, ⟨_, .object members⟩ =>
      members[place]?.map fun member => ⟨nestedModel member.1, member.2⟩
  | .first, ⟨model, .array (item :: _)⟩ => some ⟨model, item⟩
  | _, _ => none

/-- What a path leads to. -/
def at? : List Step → Site → Option Site
  | [], site => some site
  | step :: path, site => (site.step? step).bind (at? path)

/-- The declaration of an object. -/
def declaration? : Site → Option Declaration
  | ⟨model, .object members⟩ => some (.of model (Field.ofMembers members))
  | _ => none

/-- The declaration of the object that a path leads to. -/
def declarationAt? (site : Site) (path : List Step) : Option Declaration :=
  (site.at? path).bind declaration?

theorem declaration?_eq_some {site : Site} {declaration : Declaration} :
    site.declaration? = some declaration ↔ ∃ members, site.value = .object members ∧
      declaration = .of site.model (Field.ofMembers members) := by
  obtain ⟨model, value⟩ := site
  cases value <;> simp [declaration?, eq_comm]

end Site

namespace Json

mutual

/-- The paths of the objects in a value, inner objects first. -/
def objectPaths : Json → List (List Step)
  | object members => objectPathsBelow 0 members ++ [[]]
  | array (item :: _) => item.objectPaths.map (.first :: ·)
  | _ => []

/-- The paths of the objects in the members of an object from a place on. -/
def objectPathsBelow (place : Nat) : List (String × Json) → List (List Step)
  | [] => []
  | (_, value) :: members =>
      value.objectPaths.map (.member place :: ·) ++ objectPathsBelow (place + 1) members

end

/-- The paths below members begin with the place of one of them. -/
theorem mem_objectPathsBelow {place : Nat} {members : List (String × Json)} {path : List Step} :
    path ∈ objectPathsBelow place members ↔ ∃ offset key value rest,
      members[offset]? = some (key, value) ∧ rest ∈ objectPaths value ∧
        path = .member (place + offset) :: rest := by
  induction members generalizing place with
  | nil => simp [objectPathsBelow]
  | cons member members ih =>
      obtain ⟨key, value⟩ := member
      rw [objectPathsBelow, List.mem_append, ih, List.mem_map]
      constructor
      · rintro (⟨rest, among, rfl⟩ | ⟨offset, other, inner, rest, found, among, rfl⟩)
        · exact ⟨0, key, value, rest, rfl, among, rfl⟩
        · refine ⟨offset + 1, other, inner, rest, found, among, ?_⟩
          rw [Nat.add_assoc, Nat.add_comm 1]
      · rintro ⟨offset, other, inner, rest, found, among, rfl⟩
        cases offset with
        | zero =>
            obtain ⟨rfl, rfl⟩ := Prod.mk.inj (Option.some.inj found)
            exact .inl ⟨rest, among, rfl⟩
        | succ offset =>
            refine .inr ⟨offset, other, inner, rest, found, among, ?_⟩
            rw [Nat.add_assoc, Nat.add_comm 1]

theorem member_cons_mem_objectPaths {place : Nat} {members : List (String × Json)}
    {path : List Step} :
    .member place :: path ∈ (object members).objectPaths ↔
      ∃ member, members[place]? = some member ∧ path ∈ member.2.objectPaths := by
  rw [objectPaths, List.mem_append, mem_objectPathsBelow]
  constructor
  · rintro (⟨offset, key, value, rest, found, among, same⟩ | root)
    · rw [Nat.zero_add, List.cons.injEq, Step.member.injEq] at same
      obtain ⟨rfl, rfl⟩ := same
      exact ⟨(key, value), found, among⟩
    · exact absurd (List.mem_singleton.mp root) (List.cons_ne_nil _ _)
  · rintro ⟨⟨key, value⟩, found, among⟩
    refine .inl ⟨place, key, value, path, found, among, ?_⟩
    rw [Nat.zero_add]

/-- **Objects of a document.** The paths are those that lead to an object. -/
theorem mem_objectPaths {path : List Step} {site : Site} :
    path ∈ site.value.objectPaths ↔
      ∃ model members, site.at? path = some ⟨model, .object members⟩ := by
  induction path generalizing site with
  | nil =>
      obtain ⟨name, value⟩ := site
      cases value with
      | array items => cases items <;> simp [objectPaths, Site.at?]
      | _ => simp [objectPaths, Site.at?]
  | cons step path ih =>
      obtain ⟨name, value⟩ := site
      cases value with
      | object members =>
          cases step with
          | first =>
              have apart : ¬ .first :: path ∈ (object members).objectPaths := by
                simp [objectPaths, mem_objectPathsBelow]
              simp [apart, Site.at?, Site.step?]
          | member place =>
              rw [member_cons_mem_objectPaths, Site.at?, Site.step?]
              cases members[place]? with
              | none => simp
              | some member =>
                  have inner := @ih ⟨nestedModel member.1, member.2⟩
                  simpa using inner
      | array items =>
          cases items with
          | nil => cases step <;> simp [objectPaths, Site.at?, Site.step?]
          | cons item items =>
              cases step with
              | first =>
                  have inner := @ih ⟨name, item⟩
                  simpa [objectPaths, Site.at?, Site.step?] using inner
              | member place => simp [objectPaths, Site.at?, Site.step?]
      | _ => cases step <;> simp [objectPaths, Site.at?, Site.step?]

mutual

/-- No object is reached by two paths. -/
theorem nodup_objectPaths : (value : Json) → value.objectPaths.Nodup
  | object members => by
      rw [objectPaths, List.nodup_append]
      refine ⟨nodup_objectPathsBelow 0 members, List.nodup_singleton _, ?_⟩
      intro path below other root
      obtain ⟨_, _, _, _, _, _, rfl⟩ := mem_objectPathsBelow.mp below
      rw [List.mem_singleton.mp root]
      exact List.cons_ne_nil _ _
  | array (item :: _) => by
      rw [objectPaths]
      exact (nodup_objectPaths item).map (List.cons_injective)
  | array [] => List.nodup_nil
  | null => List.nodup_nil
  | bool _ => List.nodup_nil
  | number _ => List.nodup_nil
  | string _ => List.nodup_nil

theorem nodup_objectPathsBelow (place : Nat) : (members : List (String × Json)) →
    (objectPathsBelow place members).Nodup
  | [] => List.nodup_nil
  | (_, value) :: members => by
      rw [objectPathsBelow, List.nodup_append]
      refine ⟨(nodup_objectPaths value).map (List.cons_injective),
        nodup_objectPathsBelow (place + 1) members, ?_⟩
      intro path own other below same
      obtain ⟨_, _, rfl⟩ := List.mem_map.mp own
      obtain ⟨offset, _, _, _, _, _, rfl⟩ := mem_objectPathsBelow.mp below
      have places := Step.member.inj (List.cons.inj same).1
      omega

end

mutual

/-- **One declaration for each object.** The declarations of a value are those of the objects on its
paths. -/
theorem map_declarationAt_objectPaths (name : String) : (value : Json) →
    value.objectPaths.map (Site.mk name value).declarationAt? = (declared name value).map some
  | object members => by
      rw [objectPaths, declared, List.map_append, List.map_append,
        map_declarationAt_objectPathsBelow name members 0 members fun _ => by rw [Nat.zero_add]]
      rfl
  | array (item :: others) => by
      rw [objectPaths, declared, ← map_declarationAt_objectPaths name item, List.map_map]
      rfl
  | array [] => rfl
  | null => rfl
  | bool _ => rfl
  | number _ => rfl
  | string _ => rfl

theorem map_declarationAt_objectPathsBelow (name : String) (whole : List (String × Json))
    (place : Nat) : (members : List (String × Json)) →
    (∀ offset, whole[place + offset]? = members[offset]?) →
      (objectPathsBelow place members).map (Site.mk name (object whole)).declarationAt? =
        (declaredBelow members).map some
  | [], _ => rfl
  | (key, value) :: members, found => by
      -- paths start at the whole object, of which the members are what is left from the place on
      have here : whole[place]? = some (key, value) := found 0
      rw [objectPathsBelow, declaredBelow, List.map_append, List.map_append,
        ← map_declarationAt_objectPaths (nestedModel key) value, List.map_map,
        map_declarationAt_objectPathsBelow name whole (place + 1) members fun offset => by
          rw [Nat.add_assoc, Nat.add_comm 1, found]
          rfl]
      congr 1
      apply List.map_congr_left
      intro path _
      simp [Site.declarationAt?, Site.at?, Site.step?, here]

end

end Json

end ModelScribe

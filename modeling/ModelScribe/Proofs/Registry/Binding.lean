import Mathlib.Data.List.Pairwise
import ModelScribe.Proofs.Registry.DeclarationOrder
import ModelScribe.Proofs.Registry.PostOrder

/-! # References and the declarations they are bound to

The models of a document are named after keys, so two of them may have one name.
If no key stands for an object twice, and none for one with the name of the root,
all names are distinct, and each reference is bound to the declaration of the very
object that its field was taken from (`ModelScribe.Registry.references_bound`).

The path of an object leads through the key that the object is named after
(`ModelScribe.Site.at?_eq_object`), so distinct keys make distinct names.
-/

namespace ModelScribe

/-- The path to the object that a value stands for. -/
def Json.targetPath : Json → List Step
  | .array (first :: _) => .first :: first.targetPath
  | _ => []

theorem nestedModel_inj {key other : String} : nestedModel key = nestedModel other ↔ key = other := by
  simp [nestedModel]

namespace Site

/-- The keys of an object whose values stand for objects. -/
def ownKeys : Site → List String
  | ⟨_, .object members⟩ => (members.filter fun member => member.2.target?.isSome).map Prod.fst
  | _ => []

/-- The keys whose values stand for objects, in all objects of a document. -/
def objectKeys (site : Site) : List String :=
  site.value.objectPaths.flatMap fun path => ((site.at? path).map ownKeys).getD []

/-- The member at a place of the object on a path stands for an object. -/
structure Holds (site : Site) (path : List Step) (place : Nat) (key : String) (value : Json) :
    Prop where
  member : ∃ model object, site.at? path = some ⟨model, .object object⟩ ∧
    object[place]? = some (key, value)
  target : value.target? ≠ none

variable {site : Site} {path : List Step}

/-- A long path leads on from where its first part leads. -/
theorem at?_append (site : Site) (path more : List Step) :
    site.at? (path ++ more) = (site.at? path).bind (at? more) := by
  induction path generalizing site with
  | nil => rfl
  | cons step path ih =>
      rw [List.cons_append, at?, at?, Option.bind_assoc]
      exact Option.bind_congr fun next _ => ih next

/-- The path to the target of a value leads to the object that it is. -/
theorem at?_targetPath {value : Json} {target : List (String × Json)}
    (some : value.target? = some target) (model : String) :
    (Site.mk model value).at? value.targetPath = .some ⟨model, .object target⟩ := by
  fun_induction Json.target? value with
  | case1 members =>
      obtain rfl := Option.some.inj some
      rfl
  | case2 first others ih => exact ih some
  | case3 value notObject notArray => simp at some

/-- An object is the one that its document stands for, or the one that a member on its path stands
for, which it is named after. -/
theorem at?_eq_object {model : String} {below : List (String × Json)}
    (leads : site.at? path = some ⟨model, .object below⟩) :
    (path = site.value.targetPath ∧ site.value.target? ≠ none ∧ model = site.model) ∨
      ∃ outer place key value, site.Holds outer place key value ∧
        path = outer ++ .member place :: value.targetPath ∧ model = nestedModel key := by
  induction path generalizing site with
  | nil =>
      obtain rfl := Option.some.inj leads
      exact .inl ⟨rfl, Option.some_ne_none _, rfl⟩
  | cons step path ih =>
      obtain ⟨next, steps, leads⟩ := Option.bind_eq_some_iff.mp leads
      -- what the rest of the path goes through, it goes through behind the first step
      have behind : ∀ {outer place key value}, next.Holds outer place key value →
          site.Holds (step :: outer) place key value := by
        rintro outer place key value ⟨⟨model, object, leads, found⟩, target⟩
        refine ⟨⟨model, object, ?_, found⟩, target⟩
        rw [at?, steps]
        exact leads
      rcases ih leads with ⟨rfl, some, rfl⟩ | ⟨outer, place, key, value, holds, rfl, rfl⟩
      · unfold step? at steps
        split at steps
        · next place name members =>
            obtain ⟨⟨key, value⟩, found, rfl⟩ := Option.map_eq_some_iff.mp steps
            exact .inr ⟨[], place, key, value, ⟨⟨name, members, rfl, found⟩, some⟩, rfl, rfl⟩
        · obtain rfl := Option.some.inj steps
          exact .inl ⟨rfl, some, rfl⟩
        · cases steps
      · exact .inr ⟨step :: outer, place, key, value, behind holds, rfl, rfl⟩

/-- The key of a member that stands for an object is one of the object's own keys. -/
theorem mem_ownKeys (name : String) {object : List (String × Json)} {place : Nat} {key : String}
    {value : Json} (found : object[place]? = some (key, value)) (target : value.target? ≠ none) :
    key ∈ ownKeys ⟨name, .object object⟩ := by
  apply List.mem_map.mpr
  refine ⟨(key, value), List.mem_filter.mpr ⟨List.mem_of_getElem? found, ?_⟩, rfl⟩
  exact Option.isSome_iff_ne_none.mpr target

/-- A key that stands for an object once in an object stands at one place. -/
theorem place_unique (name : String) {object : List (String × Json)}
    (distinct : (ownKeys ⟨name, .object object⟩).Nodup) {place other : Nat} {key : String}
    {value otherValue : Json} (found : object[place]? = some (key, value))
    (target : value.target? ≠ none) (otherFound : object[other]? = some (key, otherValue))
    (otherTarget : otherValue.target? ≠ none) : place = other := by
  rw [ownKeys, List.Nodup, List.pairwise_map, List.pairwise_filter,
    List.pairwise_iff_getElem] at distinct
  obtain ⟨less, rest⟩ := List.getElem?_eq_some_iff.mp found
  obtain ⟨otherLess, otherRest⟩ := List.getElem?_eq_some_iff.mp otherFound
  rcases Nat.lt_trichotomy place other with before | same | behind
  · have apart := distinct place other less otherLess before
    rw [rest, otherRest] at apart
    exact absurd rfl (apart (Option.isSome_iff_ne_none.mpr target)
      (Option.isSome_iff_ne_none.mpr otherTarget))
  · exact same
  · have apart := distinct other place otherLess less behind
    rw [rest, otherRest] at apart
    exact absurd rfl (apart (Option.isSome_iff_ne_none.mpr otherTarget)
      (Option.isSome_iff_ne_none.mpr target))

/-- The path to an object that holds a member is one of the paths to objects. -/
theorem Holds.mem_objectPaths {outer : List Step} {place : Nat} {key : String} {value : Json}
    (holds : site.Holds outer place key value) : outer ∈ site.value.objectPaths := by
  obtain ⟨⟨model, object, leads, _⟩, _⟩ := holds
  exact Json.mem_objectPaths.mpr ⟨model, object, leads⟩

/-- The key of a member that stands for an object is one of the keys of objects. -/
theorem Holds.mem_objectKeys {outer : List Step} {place : Nat} {key : String} {value : Json}
    (holds : site.Holds outer place key value) : key ∈ site.objectKeys := by
  apply List.mem_flatMap.mpr
  refine ⟨outer, holds.mem_objectPaths, ?_⟩
  obtain ⟨⟨model, object, leads, found⟩, target⟩ := holds
  rw [leads]
  exact mem_ownKeys model found target

/-- A key that stands for an object once in a document does so at one place of one object. -/
theorem Holds.unique (distinct : site.objectKeys.Nodup) {outer other : List Step}
    {place otherPlace : Nat} {key : String} {value otherValue : Json}
    (one : site.Holds outer place key value) (two : site.Holds other otherPlace key otherValue) :
    outer = other ∧ place = otherPlace ∧ value = otherValue := by
  obtain ⟨within, between⟩ := List.nodup_flatMap.mp distinct
  have reached := one.mem_objectPaths
  have otherReached := two.mem_objectPaths
  obtain ⟨⟨model, object, leads, found⟩, target⟩ := one
  obtain ⟨⟨otherModel, otherObject, otherLeads, otherFound⟩, otherTarget⟩ := two
  have own := mem_ownKeys model found target
  have otherOwn := mem_ownKeys otherModel otherFound otherTarget
  have same : outer = other := by
    by_contra different
    have symmetric : Std.Symm (Function.onFun List.Disjoint fun path =>
        ((site.at? path).map ownKeys).getD []) := ⟨fun _ _ => List.disjoint_symm⟩
    have apart := between.forall reached otherReached different
    simp only [Function.onFun, leads, otherLeads, Option.map_some, Option.getD_some] at apart
    exact apart own otherOwn
  subst same
  have sites := Site.mk.inj (Option.some.inj (leads.symm.trans otherLeads))
  obtain rfl := Json.object.inj sites.2
  have distinctHere := within outer reached
  rw [leads] at distinctHere
  obtain rfl := place_unique model distinctHere found target otherFound otherTarget
  have members := Option.some.inj (found.symm.trans otherFound)
  exact ⟨rfl, rfl, (Prod.mk.inj members).2⟩

/-- Objects are named apart if no key stands for two of them, and none for the name of the root. -/
theorem path_unique {root : String} {members : List (String × Json)}
    (distinct : (Site.mk root (.object members)).objectKeys.Nodup)
    (apart : ∀ key ∈ (Site.mk root (.object members)).objectKeys, root ≠ nestedModel key)
    {path other : List Step} {model : String} {below otherBelow : List (String × Json)}
    (leads : (Site.mk root (.object members)).at? path = some ⟨model, .object below⟩)
    (otherLeads : (Site.mk root (.object members)).at? other = some ⟨model, .object otherBelow⟩) :
    path = other := by
  rcases at?_eq_object leads with ⟨rfl, _, rfl⟩ | ⟨outer, place, key, value, holds, rfl, rfl⟩
  · rcases at?_eq_object otherLeads with ⟨rfl, _⟩ | ⟨_, _, otherKey, _, holds, _, named⟩
    · rfl
    · exact absurd named (apart otherKey holds.mem_objectKeys)
  · rcases at?_eq_object otherLeads with
      ⟨_, _, named⟩ | ⟨otherOuter, otherPlace, otherKey, otherValue, otherHolds, rfl, named⟩
    · exact absurd named.symm (apart key holds.mem_objectKeys)
    · obtain rfl := nestedModel_inj.mp named
      obtain ⟨rfl, rfl, rfl⟩ := holds.unique distinct otherHolds
      rfl

end Site

namespace Registry

variable {root : String} {members : List (String × Json)}

/-- The path at an index leads to the object whose declaration has the same index. -/
theorem getElem?_objectPaths (root : String) (members : List (String × Json)) (index : Nat) :
    ((Json.object members).objectPaths[index]?).map
        (Site.mk root (.object members)).declarationAt? =
      ((ofRoot root (.object members)).models[index]?).map some := by
  have all := Json.map_declarationAt_objectPaths root (.object members)
  rw [models_ofRoot, ← List.getElem?_map, all, List.getElem?_map]
  rfl

/-- Each declaration is that of the object to which the path of its place leads. -/
theorem exists_objectPath {index : Nat} {declaration : Declaration}
    (found : (ofRoot root (.object members)).models[index]? = some declaration) :
    ∃ path model below, (Json.object members).objectPaths[index]? = some path ∧
      (Site.mk root (.object members)).at? path = some ⟨model, .object below⟩ ∧
      declaration = .of model (Field.ofMembers below) := by
  have place := getElem?_objectPaths root members index
  rw [found, Option.map_some, Option.map_eq_some_iff] at place
  obtain ⟨path, listed, declares⟩ := place
  obtain ⟨⟨model, value⟩, leads, made⟩ := Option.bind_eq_some_iff.mp declares
  obtain ⟨below, rfl, rfl⟩ := Site.declaration?_eq_some.mp made
  exact ⟨path, model, below, listed, leads, rfl⟩

/-- The object at the end of a path has a declaration. -/
theorem exists_index {path : List Step} {model : String} {below : List (String × Json)}
    (leads : (Site.mk root (.object members)).at? path = some ⟨model, .object below⟩) :
    ∃ index : Nat, (Json.object members).objectPaths[index]? = some path ∧
      (ofRoot root (.object members)).models[index]? =
        some (Declaration.of model (Field.ofMembers below)) := by
  have among : path ∈ (Json.object members).objectPaths :=
    (@Json.mem_objectPaths path ⟨root, .object members⟩).mpr ⟨model, below, leads⟩
  obtain ⟨index, listed⟩ := List.mem_iff_getElem?.mp among
  have place := getElem?_objectPaths root members index
  rw [listed, Option.map_some, Site.declarationAt?, leads, eq_comm, Option.map_eq_some_iff] at place
  obtain ⟨declaration, found, made⟩ := place
  obtain rfl := Option.some.inj made
  exact ⟨index, listed, found⟩

/-- Models named apart are found at one index only. -/
theorem index_unique
    (distinct : (Site.mk root (.object members)).objectKeys.Nodup)
    (apart : ∀ key ∈ (Site.mk root (.object members)).objectKeys, root ≠ nestedModel key)
    {index other : Nat} {declaration otherDeclaration : Declaration}
    (found : (ofRoot root (.object members)).models[index]? = some declaration)
    (otherFound : (ofRoot root (.object members)).models[other]? = some otherDeclaration)
    (named : declaration.model = otherDeclaration.model) : index = other := by
  obtain ⟨path, model, below, listed, leads, rfl⟩ := exists_objectPath found
  obtain ⟨otherPath, otherModel, otherBelow, otherListed, otherLeads, rfl⟩ :=
    exists_objectPath otherFound
  obtain rfl : model = otherModel := named
  obtain rfl := Site.path_unique distinct apart leads otherLeads
  have less := (List.getElem?_eq_some_iff.mp listed).1
  exact (List.getElem?_inj less (Json.nodup_objectPaths _)).mp (listed.trans otherListed.symm)

/-- **Binding.** If no key stands for two objects of a document, and none for one with the name of
the root, the names of its models are distinct. The declaration of each object has its fields, and a
field that refers to a model does so to the one declaration of that name, which comes earlier and
is that of the object that the field's key stands for. -/
theorem references_bound
    (distinct : (Site.mk root (.object members)).objectKeys.Nodup)
    (apart : ∀ key ∈ (Site.mk root (.object members)).objectKeys, root ≠ nestedModel key) :
    let sample := Json.object members
    let models := (ofRoot root sample).models
    (ofRoot root sample).names.Nodup ∧
      ∀ (index : Nat) (declaration : Declaration), models[index]? = some declaration →
        ∃ path object, sample.objectPaths[index]? = some path ∧
          (Site.mk root sample).at? path = some ⟨declaration.model, .object object⟩ ∧
          declaration.fields = Field.ofMembers object ∧
          ∀ field ∈ declaration.fields, ∀ model, field.type.innermost = .reference model →
            ∃ (place : Nat) (value : Json) (target : List (String × Json)) (earlier : Nat)
                (other : Declaration),
              object[place]? = some (field.key, value) ∧ value.target? = some target ∧
              sample.objectPaths[earlier]? = some (path ++ .member place :: value.targetPath) ∧
              earlier < index ∧ models[earlier]? = some other ∧ other.model = model ∧
              (ofRoot model (.object target)).root? = some other ∧
              ∀ (index : Nat) (same : Declaration), models[index]? = some same →
                same.model = model → index = earlier := by
  intro sample models
  have unique := @index_unique root members distinct apart
  constructor
  · rw [names, List.Nodup, List.pairwise_map, List.pairwise_iff_getElem]
    intro index other less otherLess before same
    have one := unique (List.getElem?_eq_getElem less) (List.getElem?_eq_getElem otherLess) same
    exact Nat.ne_of_lt before one
  · intro index declaration found
    obtain ⟨path, model, object, listed, leads, rfl⟩ := exists_objectPath found
    refine ⟨path, object, listed, leads, rfl, ?_⟩
    intro field among model refers
    obtain ⟨value, member, rfl, stands⟩ := Field.refers_ofMembers among refers
    obtain ⟨target, stands⟩ := Option.ne_none_iff_exists'.mp stands
    obtain ⟨place, held⟩ := List.mem_iff_getElem?.mp member
    -- the object of the field lies on the path through its key
    have below : (Site.mk root sample).at? (path ++ .member place :: value.targetPath) =
        some ⟨nestedModel field.key, .object target⟩ := by
      rw [Site.at?_append, leads, Option.bind_some, Site.at?, Site.step?, held]
      exact Site.at?_targetPath stands _
    obtain ⟨earlier, earlierListed, declared⟩ := exists_index below
    refine ⟨place, value, target, earlier, _, held, stands, earlierListed, ?_, declared, rfl, ?_, ?_⟩
    · -- some declaration of that name comes earlier, and there is only one
      have ordered : Ordered models := by
        rw [show models = appended root sample from models_ofRoot root sample]
        exact ordered_appended root sample
      obtain ⟨before, other, less, otherFound, named⟩ := ordered.resolve found among refers
      have same := unique otherFound declared named
      omega
    · rw [root?, models_ofRoot, getLast?_appended]
    · intro other same otherFound named
      exact unique otherFound declared named

/-- Two objects behind different keys, one of them in arrays. -/
theorem references_bound_grid :
    let sample := Json.object [("user", .object [("city", .string "Oslo")]),
      ("grid", .array [.array [.object [("on", .bool true)]]])]
    let models := (ofRoot "Root" sample).models
    let field : Field := ⟨"grid", .array (.array (.reference "gridModel"))⟩
    (Site.mk "Root" sample).objectKeys.Nodup ∧
      (∀ key ∈ (Site.mk "Root" sample).objectKeys, "Root" ≠ nestedModel key) ∧
      (ofRoot "Root" sample).names.Nodup ∧
      models[2]? = some (.of "Root" [⟨"user", .reference "userModel"⟩, field]) ∧
      field.type.innermost = .reference "gridModel" ∧
      ∃ (target : List (String × Json)) (earlier : Nat) (other : Declaration),
        earlier < 2 ∧ models[earlier]? = some other ∧ other.model = "gridModel" ∧
          (ofRoot "gridModel" (.object target)).root? = some other ∧
          ∀ (index : Nat) (same : Declaration), models[index]? = some same →
            same.model = "gridModel" → index = earlier := by
  intro sample models field
  have distinct : (Site.mk "Root" sample).objectKeys.Nodup := by decide
  have apart : ∀ key ∈ (Site.mk "Root" sample).objectKeys, "Root" ≠ nestedModel key := by decide
  have found : models[2]? = some (.of "Root" [⟨"user", .reference "userModel"⟩, field]) := by
    decide
  obtain ⟨unique, bound⟩ := references_bound distinct apart
  obtain ⟨_, _, _, _, _, fields⟩ := bound 2 _ found
  obtain ⟨_, _, target, earlier, other, _, _, _, before, declared, named, own, only⟩ :=
    fields field (List.mem_cons_of_mem _ (List.mem_cons_self ..)) "gridModel" rfl
  exact ⟨distinct, apart, unique, found, rfl, target, earlier, other, before, declared, named, own,
    only⟩

end Registry

end ModelScribe

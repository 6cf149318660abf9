import ModelScribe.Proofs.Module.Printed

/-! # Declaration before use

A list of declarations is ordered if each refers only to models declared before
it (`ModelScribe.Registry.Ordered`). What one sample appends is ordered by itself
(`ModelScribe.Registry.ordered_appended`), so in a registry built from any number
of samples each reference is resolved within what its own sample appended
(`ModelScribe.Registry.declared_before_use`).
-/

namespace ModelScribe

namespace FieldType

/-- Naming objects changes the innermost type only where it is an object. -/
theorem innermost_nameObject (model : String) (type : FieldType) :
    (type.nameObject model).innermost = type.innermost.nameObject model := by
  induction type with
  | array item ih => exact ih
  | _ => rfl

/-- No type is taken from a sample by the name of a model. -/
theorem innermost_infer_ne_reference (value : Json) (model : String) :
    (infer value).innermost ≠ .reference model := by
  fun_induction infer value with
  | case6 first others ih => exact ih
  | _ => simp [innermost]

end FieldType

/-- A field that refers to a model does so to the model of its key's object. -/
theorem Field.refers_ofMembers {members : List (String × Json)} {field : Field}
    (member : field ∈ ofMembers members) {model : String}
    (refers : field.type.innermost = .reference model) :
    ∃ value, (field.key, value) ∈ members ∧ model = nestedModel field.key ∧
      value.target? ≠ none := by
  obtain ⟨key, value, among, rfl⟩ := exists_of_mem_ofMembers member
  rw [FieldType.innermost_nameObject] at refers
  refine ⟨value, among, ?_⟩
  cases inner : (FieldType.infer value).innermost with
  | object =>
      have object := (Json.innermost_infer_eq_object value).mp inner
      rw [inner] at refers
      exact ⟨(FieldType.reference.inj refers).symm, object⟩
  | reference other => exact absurd inner (FieldType.innermost_infer_ne_reference value other)
  | array item => exact absurd inner (FieldType.innermost_ne_array _ item)
  | _ =>
      rw [inner] at refers
      cases refers

/-- What is declared below a member is declared below the members. -/
theorem Json.mem_declaredBelow {members : List (String × Json)} {key : String} {value : Json}
    (member : (key, value) ∈ members) {declaration : Declaration}
    (declares : declaration ∈ declared (nestedModel key) value) :
    declaration ∈ declaredBelow members := by
  induction members with
  | nil => simp at member
  | cons first others ih =>
      obtain ⟨firstKey, firstValue⟩ := first
      rw [declaredBelow, List.mem_append]
      rcases List.mem_cons.mp member with same | later
      · rw [Prod.mk.injEq] at same
        rw [← same.1, ← same.2]
        exact .inl declares
      · exact .inr (ih later)

namespace Registry

/-- Each declaration refers only to models that are declared before it. -/
inductive Ordered : List Declaration → Prop
  | nil : Ordered []
  | concat {earlier : List Declaration} {declaration : Declaration} (ordered : Ordered earlier)
      (resolved : ∀ field ∈ declaration.fields, ∀ model,
        field.type.innermost = .reference model → ∃ other ∈ earlier, other.model = model) :
      Ordered (earlier ++ [declaration])

/-- What is ordered by itself is ordered behind anything that is. -/
theorem Ordered.append {first second : List Declaration} (before : Ordered first)
    (behind : Ordered second) : Ordered (first ++ second) := by
  induction behind with
  | nil => rwa [List.append_nil]
  | concat ordered resolved ih =>
      rw [← List.append_assoc]
      refine .concat ih fun field member model refers => ?_
      obtain ⟨other, among, named⟩ := resolved field member model refers
      exact ⟨other, List.mem_append_right _ among, named⟩

/-- In an ordered list a reference goes back to a smaller index. -/
theorem Ordered.resolve {declarations : List Declaration} (ordered : Ordered declarations)
    {index : Nat} {declaration : Declaration} (found : declarations[index]? = some declaration)
    {field : Field} (member : field ∈ declaration.fields) {model : String}
    (refers : field.type.innermost = .reference model) :
    ∃ earlier other, earlier < index ∧ declarations[earlier]? = some other ∧
      other.model = model := by
  induction ordered with
  | nil => simp at found
  | @concat before last ordered resolved ih =>
      by_cases inside : index < before.length
      · rw [List.getElem?_append_left inside] at found
        obtain ⟨earlier, other, less, place, named⟩ := ih found
        refine ⟨earlier, other, less, ?_, named⟩
        rw [List.getElem?_append_left (Nat.lt_trans less inside), place]
      · have bound := (List.getElem?_eq_some_iff.mp found).1
        have final : index = before.length := by
          simp only [List.length_append, List.length_singleton] at bound
          omega
        subst final
        rw [List.getElem?_concat_length] at found
        obtain rfl := Option.some.inj found
        obtain ⟨other, among, named⟩ := resolved field member model refers
        obtain ⟨earlier, less, place⟩ := List.getElem_of_mem among
        refine ⟨earlier, other, less, ?_, named⟩
        rw [List.getElem?_append_left less, List.getElem?_eq_some_iff]
        exact ⟨less, place⟩

mutual

/-- **Order of declarations.** The models of an object and of all objects below it are declared
before they are used. -/
theorem ordered_declared (name : String) : (value : Json) → Ordered (Json.declared name value)
  | .object members => by
      rw [Json.declared]
      refine .concat (ordered_declaredBelow members) fun field member model refers => ?_
      obtain ⟨value, among, rfl, some⟩ := Field.refers_ofMembers member refers
      obtain ⟨below, target⟩ := Option.ne_none_iff_exists'.mp some
      have last := Json.getLast?_declared target (nestedModel field.key)
      exact ⟨_, Json.mem_declaredBelow among (List.mem_of_getLast? last), rfl⟩
  | .array (first :: _) => by
      rw [Json.declared]
      exact ordered_declared name first
  | .array [] => .nil
  | .null => .nil
  | .bool _ => .nil
  | .number _ => .nil
  | .string _ => .nil

theorem ordered_declaredBelow : (members : List (String × Json)) →
    Ordered (Json.declaredBelow members)
  | [] => .nil
  | (key, value) :: members => by
      rw [Json.declaredBelow]
      exact (ordered_declared (nestedModel key) value).append (ordered_declaredBelow members)

end

/-- What a sample appends is ordered by itself. -/
theorem ordered_appended (name : String) (sample : Json) : Ordered (appended name sample) := by
  cases sample with
  | object members => exact ordered_declared name (.object members)
  | _ => exact .nil

/-- The registry with the models of several samples added, each under its name. -/
def buildAll (samples : List (String × Json)) (registry : Registry) : Registry :=
  samples.foldl (fun registry sample => registry.build sample.1 sample.2) registry

/-- Where in a registry built from nothing the declarations of a sample begin. -/
def startOf (samples : List (String × Json)) (position : Nat) : Nat :=
  (empty.buildAll (samples.take position)).size

/-- The name of a sample that is an object. -/
def modelOf? : String × Json → Option String
  | (name, .object _) => some name
  | _ => none

/-- The name of the last sample that is an object. -/
def lastModel? (samples : List (String × Json)) : Option String :=
  (samples.filterMap modelOf?).getLast?

theorem lastModel?_cons (sample : String × Json) (samples : List (String × Json)) :
    lastModel? (sample :: samples) = (lastModel? samples).or (modelOf? sample) := by
  unfold lastModel?
  cases own : modelOf? sample with
  | none => rw [List.filterMap_cons_none own, Option.or_none]
  | some name =>
      rw [List.filterMap_cons_some own, List.getLast?_cons]
      cases (samples.filterMap modelOf?).getLast? <;> rfl

/-- Each sample appends its own declarations. -/
theorem models_buildAll (samples : List (String × Json)) (registry : Registry) :
    (registry.buildAll samples).models =
      registry.models ++ samples.flatMap fun sample => appended sample.1 sample.2 := by
  induction samples generalizing registry with
  | nil => exact (List.append_nil _).symm
  | cons sample samples ih =>
      have rest := ih (registry.build sample.1 sample.2)
      rw [models_build, List.append_assoc] at rest
      exact rest

variable {samples : List (String × Json)} {position : Nat} {name : String} {sample : Json}

theorem startOf_eq (samples : List (String × Json)) (position : Nat) :
    startOf samples position =
      ((samples.take position).flatMap fun sample => appended sample.1 sample.2).length := by
  rw [startOf, size, models_buildAll]
  rfl

/-- The declarations of a sample end where those of the next one begin. -/
theorem startOf_succ (found : samples[position]? = some (name, sample)) :
    startOf samples (position + 1) = startOf samples position + (appended name sample).length := by
  rw [startOf_eq, startOf_eq, List.take_add_one, found, List.flatMap_append, List.length_append]
  simp

/-- The declarations of a sample are found from where they begin. -/
theorem getElem?_buildAll (found : samples[position]? = some (name, sample)) {offset : Nat}
    (inside : offset < (appended name sample).length) :
    (empty.buildAll samples).models[startOf samples position + offset]? =
      (appended name sample)[offset]? := by
  obtain ⟨less, same⟩ := List.getElem?_eq_some_iff.mp found
  have cut : samples = samples.take position ++ (name, sample) :: samples.drop (position + 1) := by
    rw [← same, List.getElem_cons_drop, List.take_append_drop]
  have whole : (empty.buildAll samples).models =
      ((samples.take position).flatMap fun sample => appended sample.1 sample.2) ++
        (appended name sample ++
          (samples.drop (position + 1)).flatMap fun sample => appended sample.1 sample.2) := by
    have spread := congrArg (List.flatMap fun sample => appended sample.1 sample.2) cut
    rw [List.flatMap_append, List.flatMap_cons] at spread
    rw [models_buildAll, spread]
    rfl
  rw [whole, startOf_eq, List.getElem?_append_right (Nat.le_add_right _ _),
    Nat.add_sub_cancel_left, List.getElem?_append_left inside]

/-- Each declaration belongs to one of the samples. -/
theorem exists_startOf {index : Nat} {count : Nat} (bound : count ≤ samples.length)
    (less : index < startOf samples count) :
    ∃ position name sample offset, samples[position]? = some (name, sample) ∧
      offset < (appended name sample).length ∧ index = startOf samples position + offset := by
  induction count with
  | zero => simp [startOf, buildAll, size, empty] at less
  | succ count ih =>
      by_cases earlier : index < startOf samples count
      · exact ih (Nat.le_of_succ_le bound) earlier
      · obtain ⟨⟨name, sample⟩, found⟩ : ∃ pair, samples[count]? = some pair :=
          ⟨_, List.getElem?_eq_getElem bound⟩
        have ends := startOf_succ found
        refine ⟨count, name, sample, index - startOf samples count, found, ?_, ?_⟩
        · omega
        · omega

/-- The last declaration that an object appends is its own. -/
theorem getLast?_appended (name : String) (members : List (String × Json)) :
    (appended name (.object members)).getLast? = some (.of name (Field.ofMembers members)) :=
  Json.getLast?_declared rfl name

/-- The last declaration is that of the last object. -/
theorem root?_buildAll (samples : List (String × Json)) (registry : Registry) :
    (registry.buildAll samples).root?.map Declaration.model =
      (lastModel? samples).or (registry.root?.map Declaration.model) := by
  induction samples generalizing registry with
  | nil => rfl
  | cons sample samples ih =>
      obtain ⟨name, sample⟩ := sample
      have rest := ih (registry.build name sample)
      cases sample with
      | object members =>
          have own : (registry.build name (.object members)).root?.map Declaration.model =
              some name := by
            rw [root?, models_build, List.getLast?_append, getLast?_appended]
            rfl
          rw [own] at rest
          rw [lastModel?_cons, Option.or_assoc]
          exact rest
      | _ =>
          rw [lastModel?_cons, Option.or_assoc]
          exact rest

/-- The last model of a document that is an object is named as the root. -/
theorem model_root?_ofRoot (root : String) (members : List (String × Json)) :
    (ofRoot root (.object members)).root?.map Declaration.model = some root := by
  rw [ofRoot, root?, models_build, List.getLast?_append, getLast?_appended]
  rfl

/-- **Declaration before use.** In the registry built from any samples, each declaration belongs to
one of them, and a model that one of its fields refers to is declared before it by the same sample.
The last declaration of a sample that is an object is named after it, and the last one of all, which
the module exports, after the last such sample. -/
theorem declared_before_use (samples : List (String × Json)) :
    (∀ index declaration, (empty.buildAll samples).models[index]? = some declaration →
      ∃ position < samples.length,
        startOf samples position ≤ index ∧ index < startOf samples (position + 1) ∧
        ∀ field ∈ declaration.fields, ∀ model, field.type.innermost = .reference model →
          ∃ earlier other, startOf samples position ≤ earlier ∧ earlier < index ∧
            (empty.buildAll samples).models[earlier]? = some other ∧ other.model = model) ∧
    (∀ position name members, samples[position]? = some (name, .object members) →
      startOf samples position < startOf samples (position + 1) ∧
        ∃ declaration, declaration.model = name ∧
          (empty.buildAll samples).models[startOf samples (position + 1) - 1]? =
            some declaration) ∧
    (empty.buildAll samples).root?.map Declaration.model = lastModel? samples ∧
    ∀ assembly : Assembly, (assembly.emit (empty.buildAll samples)).parts.getLast? =
      some (Printed.exportOf assembly.convention (lastModel? samples)) := by
  have root : (empty.buildAll samples).root?.map Declaration.model = lastModel? samples := by
    rw [root?_buildAll]
    exact Option.or_none
  refine ⟨fun index declaration found => ?_, fun position name members found => ?_, root,
    fun assembly => ?_⟩
  · have bound := (List.getElem?_eq_some_iff.mp found).1
    have less : index < startOf samples samples.length := by
      rw [startOf, List.take_length]
      exact bound
    obtain ⟨position, name, sample, offset, among, inside, rfl⟩ :=
      exists_startOf (Nat.le_refl _) less
    have ends := startOf_succ among
    rw [getElem?_buildAll among inside] at found
    refine ⟨position, (List.getElem?_eq_some_iff.mp among).1, Nat.le_add_right _ _, by omega, ?_⟩
    intro field member model refers
    obtain ⟨earlier, other, before, place, named⟩ :=
      (ordered_appended name sample).resolve found member refers
    refine ⟨startOf samples position + earlier, other, Nat.le_add_right _ _, by omega, ?_, named⟩
    rw [getElem?_buildAll among (Nat.lt_trans before inside), place]
  · have ends := startOf_succ found
    have last := getLast?_appended name members
    rw [List.getLast?_eq_getElem?] at last
    have some := (List.getElem?_eq_some_iff.mp last).1
    refine ⟨by omega, .of name (Field.ofMembers members), rfl, ?_⟩
    have place := getElem?_buildAll found some
    rw [last] at place
    rw [← place, ends]
    congr 1
    omega
  · rw [Assembly.emit, Assembly.partsOf, root, ← List.append_assoc, List.getLast?_concat,
      Printed.exportStatement_eq]

/-- A key below itself, in an array: the inner object's model is declared first, under the same
name. -/
theorem declared_before_use_nested :
    let samples := [("Root", .object [("item", .array [.object [("item", .object [])]])]),
      ("Rest", .null)]
    (empty.buildAll samples).models[1]? =
        some (.of "itemModel" [⟨"item", .reference "itemModel"⟩]) ∧
      ∃ earlier other, earlier < 1 ∧ (empty.buildAll samples).models[earlier]? = some other ∧
        other.model = "itemModel" := by
  intro samples
  have found : (empty.buildAll samples).models[1]? =
      some (.of "itemModel" [⟨"item", .reference "itemModel"⟩]) := by decide
  obtain ⟨_, _, _, _, resolved⟩ := (declared_before_use samples).1 1 _ found
  obtain ⟨earlier, other, _, before, place, named⟩ :=
    resolved _ (List.mem_cons_self ..) "itemModel" rfl
  exact ⟨found, earlier, other, before, place, named⟩

end Registry

end ModelScribe

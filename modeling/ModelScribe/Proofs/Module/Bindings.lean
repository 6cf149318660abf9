import ModelScribe.Proofs.Module.PartNames
import ModelScribe.Proofs.Registry.Binding

/-! # Names that a module binds

The text of a module binds the constructor that it imports and its models, in order
(`ModelScribe.ModulePlan.boundNames_execute`). Models are named after keys, and
nothing keeps them apart from the constructor: its name is that of a model under
the key `Json`. A module whose models are named apart binds no name twice exactly
if that key stands for no object (`ModelScribe.ModulePlan.bindings_nodup`).
-/

namespace ModelScribe

open Text

/-- The key `Json` is the one whose model has the name of the constructor. -/
theorem nestedModel_eq_factoryName {key : String} : nestedModel key = factoryName ↔ key = "Json" :=
  @nestedModel_inj key "Json"

namespace Site

variable {site : Site} {path : List Step} {place : Nat} {key : String} {value : Json}

/-- The object that a member stands for is named after the key of the member. -/
theorem Holds.at?_target {target : List (String × Json)} (holds : site.Holds path place key value)
    (stands : value.target? = some target) :
    site.at? (path ++ .member place :: value.targetPath) =
      some ⟨nestedModel key, .object target⟩ := by
  obtain ⟨⟨model, object, leads, held⟩, -⟩ := holds
  rw [at?_append, leads, Option.bind_some, at?, step?, held]
  exact at?_targetPath stands _

/-- Each key that stands for an object is that of a member somewhere. -/
theorem exists_holds (among : key ∈ site.objectKeys) :
    ∃ path place value, site.Holds path place key value := by
  obtain ⟨path, -, own⟩ := List.mem_flatMap.mp among
  cases leads : site.at? path with
  | none =>
      rw [leads] at own
      cases own
  | some met =>
      obtain ⟨model, sample⟩ := met
      rw [leads] at own
      cases sample with
      | object members =>
          obtain ⟨member, kept, rfl⟩ := List.mem_map.mp own
          obtain ⟨held, stands⟩ := List.mem_filter.mp kept
          obtain ⟨place, found⟩ := List.mem_iff_getElem?.mp held
          exact ⟨path, place, member.2, ⟨model, members, leads, found⟩,
            Option.isSome_iff_ne_none.mp stands⟩
      | _ => cases own

end Site

namespace Registry

variable {root : String} {members : List (String × Json)}

/-- The models of a document are named after the root and after the keys that stand for objects. -/
theorem mem_names_ofRoot {name : String} :
    name ∈ (ofRoot root (.object members)).names ↔
      name = root ∨
        ∃ key ∈ (Site.mk root (.object members)).objectKeys, name = nestedModel key := by
  constructor
  · intro among
    obtain ⟨declaration, declared, rfl⟩ := List.mem_map.mp among
    obtain ⟨index, found⟩ := List.mem_iff_getElem?.mp declared
    obtain ⟨path, model, below, -, leads, rfl⟩ := exists_objectPath found
    rcases Site.at?_eq_object leads with ⟨-, -, rfl⟩ | ⟨outer, place, key, value, holds, -, rfl⟩
    · exact .inl rfl
    · exact .inr ⟨key, holds.mem_objectKeys, rfl⟩
  · have declared : ∀ path model below,
        (Site.mk root (.object members)).at? path = some ⟨model, .object below⟩ →
          model ∈ (ofRoot root (.object members)).names := by
      intro path model below leads
      obtain ⟨index, -, found⟩ := exists_index leads
      exact List.mem_map.mpr ⟨_, List.mem_of_getElem? found, rfl⟩
    rintro (rfl | ⟨key, among, rfl⟩)
    · exact declared [] _ _ rfl
    · obtain ⟨path, place, value, holds⟩ := Site.exists_holds among
      obtain ⟨target, stands⟩ := Option.ne_none_iff_exists'.mp holds.target
      exact declared _ _ _ (holds.at?_target stands)

end Registry

namespace ModulePlan

variable {root : String} {members : List (String × Json)}

/-- All models of a document are named by identifiers, if the root and the keys of objects are. -/
theorem isBindingName_of_mem_names (identifier : IsBindingName root)
    (identifiers : ∀ key ∈ (Site.mk root (.object members)).objectKeys, IsBindingName key) :
    ∀ name ∈ (Registry.ofRoot root (.object members)).names, IsBindingName name := by
  intro name among
  rcases Registry.mem_names_ofRoot.mp among with rfl | ⟨key, stands, rfl⟩
  · exact identifier
  · exact (identifiers key stands).nestedModel

/-- **Names of a module.** With the import, the text of a module binds the constructor and its
models, however it is laid out. -/
theorem boundNames_execute (plan : ModulePlan) (identifier : IsBindingName root)
    (identifiers : ∀ key ∈ (Site.mk root (.object members)).objectKeys, IsBindingName key)
    (safeKeys : ∀ object, Json.Modelled members object → ∀ member ∈ object, IsSafeName member.1) :
    boundNames (plan.define root (.object members)).withImport.execute.toList =
      factoryName :: (Registry.ofRoot root (.object members)).names := by
  obtain ⟨convention, header, imports, replaced, layout⟩ := plan
  have safe := Registry.isSafe_ofRoot identifier.isSafeName safeKeys
  have named := Registry.model_root?_ofRoot root members
  have identified : ∀ declared ∈ (Registry.ofRoot root (.object members)).models,
      IsBindingName declared.model := fun declared among =>
    isBindingName_of_mem_names identifier identifiers _ (List.mem_map_of_mem among)
  cases layout with
  | none =>
      have silent : ∀ text ∈ (header.map Printed.headerPart).toList,
          boundNames text.toList = [] := by
        intro text among
        obtain ⟨stamp, -, rfl⟩ := Option.map_eq_some_iff.mp (Option.mem_toList.mp among)
        exact (Printed.boundNames_header stamp).2
      have rendered : ∀ declared ∈ (Registry.ofRoot root (.object members)).models, ∀ convention,
          boundNames (Printed.nested convention ++ declared.rendered).toList = [declared.model] :=
        fun declared among convention =>
          Printed.boundNames_rendered convention (safe declared among) (identified declared among)
      have parts := Printed.boundNames_parts silent rendered convention identifier
      have assembled : ((ModulePlan.mk convention header imports replaced none).define root
          (.object members)).withImport.execute =
            (Assembly.mk convention header true
              (Printed.parts convention header true (.ofRoot root (.object members)))).text := by
        rw [← Assembly.partsOf_eq convention header true []]
        rfl
      -- The separator of assembled parts has a space on either side, and the last is ended.
      have space : IsIndentation [' '] := by simp [IsIndentation, isBlank]
      have joined := boundNames_intercalate_blankLine space
        ((Printed.parts convention header true (.ofRoot root (.object members))).map String.toList)
      have ended := boundNames_append_lineFeed (List.intercalate ([' '] ++ '\n' :: '\n' :: [' '])
        ((Printed.parts convention header true (.ofRoot root (.object members))).map
          String.toList)) []
      rw [assembled, Assembly.text, String.toList_append, String.toList_intercalate]
      refine (ended.trans (List.append_nil _)).trans (joined.trans ?_)
      rw [Printed.parts, ← Registry.root?, named, if_pos rfl]
      rw [← List.append_assoc] at parts
      exact parts
  | some options =>
      have silent : ∀ text ∈ (header.map Printed.header).toList, boundNames text.toList = [] := by
        intro text among
        obtain ⟨stamp, -, rfl⟩ := Option.map_eq_some_iff.mp (Option.mem_toList.mp among)
        exact (Printed.boundNames_header stamp).1
      have blocks := Printed.boundNames_parts silent
        (fun declared among convention => Printed.boundNames_block options.isIndentation_indentUnit
          convention (safe declared among) (identified declared among)) convention identifier
      obtain ⟨laid, -, -⟩ :=
        Printed.format_text options convention header true identifier.isSafeName safeKeys
      have printed : ((ModulePlan.mk convention header imports replaced (some options)).define root
          (.object members)).withImport.execute = _ := laid
      have joined := boundNames_intercalate_blankLine isIndentation_nil
        ((Printed.blocks convention header true (String.ofList options.indentUnit)
          (.ofRoot root (.object members))).map String.toList)
      rw [printed, String.toList_intercalate]
      refine joined.trans ?_
      rw [Printed.blocks, named]
      exact blocks

/-- **Distinct bindings.** Where the root and the keys of objects are identifiers and the models are
named apart, the root also apart from the constructor, the text of a module binds the constructor
and each model in order, and no name twice exactly if the key `Json` stands for no object: it is the
one key whose model has the name of the constructor. -/
theorem bindings_nodup (plan : ModulePlan) (identifier : IsBindingName root)
    (apart : root ≠ factoryName)
    (identifiers : ∀ key ∈ (Site.mk root (.object members)).objectKeys, IsBindingName key)
    (safeKeys : ∀ object, Json.Modelled members object → ∀ member ∈ object, IsSafeName member.1)
    (distinct : (Registry.ofRoot root (.object members)).names.Nodup) :
    let sample := Json.object members
    let bound := boundNames (plan.define root sample).withImport.execute.toList
    bound = factoryName :: (Registry.ofRoot root sample).names ∧
      (bound.Nodup ↔ "Json" ∉ (Site.mk root sample).objectKeys) ∧
      ∀ key, nestedModel key = factoryName ↔ key = "Json" := by
  intro sample bound
  have names : bound = factoryName :: (Registry.ofRoot root sample).names :=
    boundNames_execute plan identifier identifiers safeKeys
  have taken : factoryName ∈ (Registry.ofRoot root sample).names ↔
      "Json" ∈ (Site.mk root sample).objectKeys := by
    rw [Registry.mem_names_ofRoot]
    constructor
    · rintro (same | ⟨key, among, same⟩)
      · exact absurd same.symm apart
      · exact nestedModel_eq_factoryName.mp same.symm ▸ among
    · exact fun among => .inr ⟨"Json", among, rfl⟩
  refine ⟨names, ?_, fun _ => nestedModel_eq_factoryName⟩
  rw [names, List.nodup_cons, ← taken]
  exact and_iff_left distinct

/-- A model under the key `Json2` is none under the key `Json`. -/
theorem bindings_nodup_grid :
    let members := [("Json2", Json.array [.array [.object []]]), ("Json", .bool true)]
    let bound := boundNames ((new .cjs).define "Root" (.object members)).withImport.execute.toList
    IsBindingName "Root" ∧ "Root" ≠ factoryName ∧
      (∀ key ∈ (Site.mk "Root" (.object members)).objectKeys, IsBindingName key) ∧
      (∀ object, Json.Modelled members object → ∀ member ∈ object, IsSafeName member.1) ∧
      (Registry.ofRoot "Root" (.object members)).names.Nodup ∧
      bound = ["JsonModel", "Json2Model", "Root"] ∧ bound.Nodup := by
  intro members bound
  have identifier : IsBindingName "Root" := by decide
  have apart : "Root" ≠ factoryName := by decide
  have identifiers : ∀ key ∈ (Site.mk "Root" (.object members)).objectKeys, IsBindingName key := by
    decide +kernel
  have plain : ∀ object ∈ Json.modelled (.object members), ∀ member ∈ object,
      IsSafeName member.1 := by
    decide
  have safeKeys : ∀ object, Json.Modelled members object →
      ∀ member ∈ object, IsSafeName member.1 :=
    fun object modelled => plain object modelled.mem_modelled
  have distinct : (Registry.ofRoot "Root" (.object members)).names.Nodup := by decide +kernel
  have free : "Json" ∉ (Site.mk "Root" (.object members)).objectKeys := by decide +kernel
  obtain ⟨names, apartNames, -⟩ :=
    bindings_nodup (new .cjs) identifier apart identifiers safeKeys distinct
  exact ⟨identifier, apart, identifiers, safeKeys, distinct, names.trans (by decide +kernel),
    apartNames.mpr free⟩

/-- What a laid out module binds, found by laying out its assembled text. -/
theorem boundNames_execute_standard (convention : Convention) (root : String)
    (members : List (String × Json)) :
    boundNames ((new convention).define root (.object members)).withImport.execute.toList =
      boundNames (Layout.laidOut LayoutOptions.standard.indentUnit .start
        (List.intercalate Assembly.separator.toList
          (Printed.assembledParts convention none true (.ofRoot root (.object members))) ++
            ['\n'])) := by
  have printed : ((new convention).define root (.object members)).withImport.execute = _ :=
    Layout.format_eq_laidOut .standard _
  rw [printed, String.toList_ofList]
  exact congrArg (fun source => boundNames (Layout.laidOut _ .start source))
    (Printed.toList_text convention none true (.ofRoot root (.object members)))

/-- Models that are named apart may be bound under one name: that of the constructor, where the key
`Json` stands for an object or the root begins with a blank, or that of another model, where a key
begins with a blank, where an identifier ends within it, and where a key ends the declaration that
it stands in. -/
theorem bindings_not_nodup :
    let text := fun root members => ((new .esm).define root (.object members)).withImport.execute
    let names := fun root members => (Registry.ofRoot root (.object members)).names
    let constructor := [("Json", Json.object [])]
    let spaced := [("a", Json.object []), (" a", .object [])]
    let assigned := [("a=b", Json.object []), ("a=c", .object [])]
    let closing := [("a:1\x7d);\nconst Root", Json.bool true)]
    (∀ input ∈ [("Root", constructor), ("Root", spaced), ("Root", assigned), ("Root", closing),
        (" JsonModel", [])],
      input.1 ≠ factoryName ∧ (names input.1 input.2).Nodup ∧
        ¬ (boundNames (text input.1 input.2).toList).Nodup) ∧
      text "Root" constructor =
        String.intercalate "\n\n" ["import JsonModel from 'jsonmodel-js/esm';",
          "export const JsonModel = new JsonModel.define(\x7b\x7d);",
          "const Root = new JsonModel.define(\x7b\n" ++
            "    Json: \x7b\n        type: JsonModel\n    \x7d\n\x7d);",
          "export default Root;"] ∧
      boundNames (text "Root" constructor).toList = ["JsonModel", "JsonModel", "Root"] ∧
      boundNames (text "Root" spaced).toList = ["JsonModel", "aModel", "aModel", "Root"] ∧
      boundNames (text "Root" assigned).toList = ["JsonModel", "a", "a", "Root"] ∧
      boundNames (text "Root" closing).toList = ["JsonModel", "Root", "Root"] ∧
      boundNames (text " JsonModel" []).toList = ["JsonModel", "JsonModel"] := by
  intro text names constructor spaced assigned closing
  have plain : ∀ object ∈ Json.modelled (.object constructor), ∀ member ∈ object,
      IsSafeName member.1 := by
    decide
  have safeKeys : ∀ object, Json.Modelled constructor object →
      ∀ member ∈ object, IsSafeName member.1 :=
    fun object modelled => plain object modelled.mem_modelled
  have identifier : IsBindingName "Root" := by decide
  obtain ⟨laid, -, -⟩ :=
    Printed.format_text .standard .esm none true identifier.isSafeName safeKeys
  have byConstructor : boundNames (text "Root" constructor).toList =
      ["JsonModel", "JsonModel", "Root"] :=
    (boundNames_execute_standard .esm "Root" constructor).trans (by decide +kernel)
  have bySpaced : boundNames (text "Root" spaced).toList =
      ["JsonModel", "aModel", "aModel", "Root"] :=
    (boundNames_execute_standard .esm "Root" spaced).trans (by decide +kernel)
  have byAssigned : boundNames (text "Root" assigned).toList = ["JsonModel", "a", "a", "Root"] :=
    (boundNames_execute_standard .esm "Root" assigned).trans (by decide +kernel)
  have byClosing : boundNames (text "Root" closing).toList = ["JsonModel", "Root", "Root"] :=
    (boundNames_execute_standard .esm "Root" closing).trans (by decide +kernel)
  have byRoot : boundNames (text " JsonModel" []).toList = ["JsonModel", "JsonModel"] :=
    (boundNames_execute_standard .esm " JsonModel" []).trans (by decide +kernel)
  refine ⟨?_, laid.trans (by decide +kernel), byConstructor, bySpaced, byAssigned, byClosing,
    byRoot⟩
  intro input among
  simp only [List.mem_cons, List.not_mem_nil, or_false] at among
  rcases among with rfl | rfl | rfl | rfl | rfl
  · exact ⟨by decide, by decide +kernel, byConstructor ▸ by decide⟩
  · exact ⟨by decide, by decide +kernel, bySpaced ▸ by decide⟩
  · exact ⟨by decide, by decide +kernel, byAssigned ▸ by decide⟩
  · exact ⟨by decide, by decide +kernel, byClosing ▸ by decide⟩
  · exact ⟨by decide, by decide +kernel, byRoot ▸ by decide⟩

end ModulePlan

end ModelScribe

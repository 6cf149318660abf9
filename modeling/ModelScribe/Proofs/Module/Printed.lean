import ModelScribe.Module.Assembly
import ModelScribe.Proofs.Registry.Appending
import ModelScribe.Text.Blank

/-! # Printed blocks

The blocks of a module as they are printed (`ModelScribe.Printed`): the header,
the import, one block for each declaration, and the export. They are given
directly, with neither assembled text nor layout.

Names are to be safe (`ModelScribe.IsSafeName`), since they are laid out along
with the blanks and the punctuation around them.
-/

namespace ModelScribe

/-- A name without blanks and without the characters that the layout looks at. -/
def IsSafeName (name : String) : Prop :=
  name ≠ "" ∧ ∀ character ∈ name.toList, Text.isBlank character = false ∧
    character ∉ ['\'', '"', '`', '/', '{', '}', ',', ';', ')', ']']

instance (name : String) : Decidable (IsSafeName name) :=
  @instDecidableAnd _ _ _ (List.decidableBAll _ name.toList)

/-- The objects below an object that are turned into models, the object itself included: those
under a key, or reached from there by first items of arrays. -/
inductive Json.Modelled (members : List (String × Json)) : List (String × Json) → Prop
  | root : Modelled members members
  | nested {outer inner : List (String × Json)} {key : String} {value : Json}
      (modelled : Modelled members outer) (member : (key, value) ∈ outer)
      (target : value.target? = some inner) : Modelled members inner

namespace Json

variable {members : List (String × Json)}

mutual

/-- The objects of a value that are turned into models, each before those below it. -/
def modelled : Json → List (List (String × Json))
  | .object own => own :: modelledBelow own
  | .array (first :: _) => modelled first
  | _ => []

def modelledBelow : List (String × Json) → List (List (String × Json))
  | [] => []
  | (_, value) :: others => modelled value ++ modelledBelow others

end

/-- The object that a value leads to is one of those turned into models. -/
theorem target_mem_modelled {value : Json} {target : List (String × Json)}
    (leads : value.target? = some target) : target ∈ modelled value := by
  fun_induction target? value with
  | case1 own =>
      obtain rfl := Option.some.inj leads
      exact List.mem_cons_self ..
  | case2 first others ih => exact ih leads
  | case3 => cases leads

theorem target_mem_modelledBelow {own target : List (String × Json)} {member : String × Json}
    (among : member ∈ own) (leads : member.2.target? = some target) :
    target ∈ modelledBelow own := by
  induction own with
  | nil => cases among
  | cons first others ih =>
      rw [modelledBelow, List.mem_append]
      rcases List.mem_cons.mp among with rfl | later
      · exact .inl (target_mem_modelled leads)
      · exact .inr (ih later)

mutual

/-- What the members of an object lead to is among the same objects. -/
theorem modelled_closed : (value : Json) → ∀ outer ∈ modelled value, ∀ member ∈ outer,
    ∀ target, member.2.target? = some target → target ∈ modelled value
  | .object own, outer, inside, member, among, target, leads => by
      rw [modelled] at inside ⊢
      rcases List.mem_cons.mp inside with rfl | below
      · exact List.mem_cons_of_mem _ (target_mem_modelledBelow among leads)
      · exact List.mem_cons_of_mem _
          (modelledBelow_closed own outer below member among target leads)
  | .array (first :: _), outer, inside, member, among, target, leads =>
      modelled_closed first outer inside member among target leads
  | .array [], _, inside, _, _, _, _ => by cases inside
  | .null, _, inside, _, _, _, _ => by cases inside
  | .bool _, _, inside, _, _, _, _ => by cases inside
  | .number _, _, inside, _, _, _, _ => by cases inside
  | .string _, _, inside, _, _, _, _ => by cases inside

theorem modelledBelow_closed : (own : List (String × Json)) → ∀ outer ∈ modelledBelow own,
    ∀ member ∈ outer, ∀ target, member.2.target? = some target → target ∈ modelledBelow own
  | [], _, inside, _, _, _, _ => by cases inside
  | (_, value) :: others, outer, inside, member, among, target, leads => by
      rw [modelledBelow, List.mem_append] at inside ⊢
      rcases inside with first | later
      · exact .inl (modelled_closed value outer first member among target leads)
      · exact .inr (modelledBelow_closed others outer later member among target leads)

end

/-- The objects below an object that are turned into models are found one by one. -/
theorem Modelled.mem_modelled {object : List (String × Json)} (below : Modelled members object) :
    object ∈ modelled (.object members) := by
  induction below with
  | root => exact List.mem_cons_self ..
  | nested _ member target ih => exact modelled_closed _ _ ih _ member _ target

/-- A model is named after a key of an object that is turned into a model. -/
def IsNestedName (members : List (String × Json)) (model : String) : Prop :=
  ∃ object, Modelled members object ∧ ∃ member ∈ object, model = nestedModel member.1

mutual

/-- What is declared for a value is that of modelled objects, and is named by the name given or
after a key. -/
theorem exists_modelled_of_mem_declared {name : String} : (value : Json) →
    (∀ object, value.target? = some object → Modelled members object) →
    ∀ declaration ∈ declared name value, ∃ model object, Modelled members object ∧
      (model = name ∨ IsNestedName members model) ∧
      declaration = .of model (Field.ofMembers object)
  | .object own, modelled, declaration, among => by
      have whole := modelled own rfl
      rw [declared, List.mem_append, List.mem_singleton] at among
      rcases among with nested | rfl
      · have inside : ∀ member ∈ own, IsNestedName members (nestedModel member.1) ∧
            ∀ object, member.2.target? = some object → Modelled members object := by
          intro member inside
          exact ⟨⟨own, whole, member, inside, rfl⟩, fun inner target => .nested whole inside target⟩
        obtain ⟨model, object, below, named, same⟩ :=
          exists_modelled_of_mem_declaredBelow own inside declaration nested
        exact ⟨model, object, below, .inr named, same⟩
      · exact ⟨name, own, whole, .inl rfl, rfl⟩
  | .array (first :: _), modelled, declaration, among =>
      exists_modelled_of_mem_declared first modelled declaration among
  | .array [], _, _, among => by cases among
  | .null, _, _, among => by cases among
  | .bool _, _, _, among => by cases among
  | .number _, _, _, among => by cases among
  | .string _, _, _, among => by cases among

theorem exists_modelled_of_mem_declaredBelow : (below : List (String × Json)) →
    (∀ member ∈ below, IsNestedName members (nestedModel member.1) ∧
      ∀ object, member.2.target? = some object → Modelled members object) →
    ∀ declaration ∈ declaredBelow below, ∃ model object, Modelled members object ∧
      IsNestedName members model ∧ declaration = .of model (Field.ofMembers object)
  | [], _, _, among => by cases among
  | (key, value) :: others, modelled, declaration, among => by
      rw [declaredBelow, List.mem_append] at among
      rcases among with first | later
      · obtain ⟨nested, own⟩ := modelled (key, value) (List.mem_cons_self ..)
        obtain ⟨model, object, below, named, same⟩ :=
          exists_modelled_of_mem_declared value own declaration first
        refine ⟨model, object, below, ?_, same⟩
        rcases named with rfl | named
        · exact nested
        · exact named
      · exact exists_modelled_of_mem_declaredBelow others
          (fun member inside => modelled member (List.mem_cons_of_mem _ inside)) declaration later

end

end Json

/-- Each declaration for a document is that of a modelled object, and is named by the name of the
root or after a key. -/
theorem Registry.exists_modelled_of_mem_ofRoot {root : String} {members : List (String × Json)}
    {declaration : Declaration}
    (among : declaration ∈ (ofRoot root (.object members)).models) :
    ∃ model object, Json.Modelled members object ∧
      (model = root ∨ Json.IsNestedName members model) ∧
      declaration = .of model (Field.ofMembers object) := by
  rw [ofRoot, models_build] at among
  refine Json.exists_modelled_of_mem_declared (.object members) (fun object same => ?_)
    declaration among
  obtain rfl := Option.some.inj same
  exact .root

namespace Printed

/-- A header with a year and a time. -/
def headerOf (year time : String) : String :=
  String.intercalate "\n"
    ["/**", " * Copyright " ++ year ++ " jsonmodel-js", " * Auto-generated: " ++ time, " *",
      " * @author jsonmodel-gen", " */"]

/-- The header of a module made at a time. -/
def header (stamp : Stamp) : String :=
  headerOf (toString stamp.year) stamp.text

/-- The import of the constructor. -/
def importOf : Convention → String
  | .cjs => "const JsonModel = require('jsonmodel-js/cjs');"
  | .esm => "import JsonModel from 'jsonmodel-js/esm';"

/-- The export of a model, or of an empty object where there is none. -/
def exportOf : Convention → Option String → String
  | .cjs, some model => "module.exports = " ++ model ++ ";"
  | .cjs, none => "module.exports = \x7b\x7d;"
  | .esm, some model => "export default " ++ model ++ ";"
  | .esm, none => "export default \x7b\x7d;"

/-- A field between the braces of a declaration. -/
def field (unit : String) (field : Field) : String :=
  unit ++ field.key ++ ": \x7b\n" ++ unit ++ unit ++ "type: " ++ field.type.text ++ "\n" ++
    unit ++ "\x7d"

/-- A declaration, with a line for each field and each part of it. -/
def declaration (unit : String) (declaration : Declaration) : String :=
  "const " ++ declaration.model ++ " = new JsonModel.define(\x7b" ++
    (if declaration.fields = [] then ""
      else "\n" ++ String.intercalate ",\n" (declaration.fields.map (field unit)) ++ "\n") ++
    "\x7d);"

/-- What a declaration that is not the last one begins with. -/
def nested : Convention → String
  | .cjs => ""
  | .esm => "export "

/-- The blocks of the declarations. -/
def declarations (convention : Convention) (unit : String) (models : List Declaration) :
    List String :=
  models.dropLast.map (fun model => nested convention ++ declaration unit model) ++
    (models.getLast?.map (declaration unit)).toList

/-- The blocks of a module. -/
def blocks (convention : Convention) (stamp : Option Stamp) (imports : Bool) (unit : String)
    (registry : Registry) : List String :=
  (stamp.map header).toList ++ (if imports then [importOf convention] else []) ++
    declarations convention unit registry.models ++
    [exportOf convention (registry.root?.map Declaration.model)]

/-- The program's import is the one that is written out here. -/
theorem importStatement_eq (convention : Convention) :
    convention.importStatement = importOf convention := by
  cases convention <;> rfl

/-- The program's export is the one that is written out here. -/
theorem exportStatement_eq (convention : Convention) (model : Option String) :
    convention.exportStatement model = exportOf convention model := by
  cases convention <;> cases model <;> rfl

end Printed

end ModelScribe

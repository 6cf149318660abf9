import ModelScribe.Proofs.Module.PrintedModule
import ModelScribe.Proofs.OrderCheck.LineReading

/-! # Acceptance by the order check

The order check accepts the text of every module whose names are plain, and counts
its declarations (`ModelScribe.OrderCheck.check_execute`). The blocks of a module
are cut into lines (`ModelScribe.Printed.blockLines`), which pass the check one
block after the other, each behind the models declared before it
(`ModelScribe.OrderCheck.Passes`).
-/

namespace ModelScribe

/-- The models that a declaration refers to, field after field. -/
def Declaration.references (declaration : Declaration) : List String :=
  declaration.fields.filterMap fun field => field.type.model?

namespace Printed

def headerLines (stamp : Stamp) : List String :=
  ["/**", " * Copyright " ++ toString stamp.year ++ " jsonmodel-js",
    " * Auto-generated: " ++ stamp.text, " *", " * @author jsonmodel-gen", " */"]

def fieldLines (unit after : String) (field : Field) : List String :=
  [unit ++ field.key ++ ": \x7b", unit ++ unit ++ "type: " ++ field.type.text,
    unit ++ "\x7d" ++ after]

/-- The lines of fields, with a comma behind each one but the last. -/
def fieldsLines (unit : String) : List Field → List String
  | [] => []
  | [field] => fieldLines unit "" field
  | field :: next :: more => fieldLines unit "," field ++ fieldsLines unit (next :: more)

def declarationLines (unit before : String) (declaration : Declaration) : List String :=
  let opening := before ++ "const " ++ declaration.model ++ " = new JsonModel.define(\x7b"
  if declaration.fields = [] then [opening ++ "\x7d);"]
  else opening :: (fieldsLines unit declaration.fields ++ ["\x7d);"])

/-- The lines of the blocks before the export, for the models before the root and the root. -/
def blockLines (convention : Convention) (stamp : Option Stamp) (imports : Bool) (unit : String)
    (models : List Declaration) (root : Declaration) : List (List String) :=
  (stamp.map headerLines).toList ++ (if imports then [[importOf convention]] else []) ++
    models.map (declarationLines unit (nested convention)) ++ [declarationLines unit "" root]

/-- The lines of a module, with an empty line behind each block. -/
def moduleLines (convention : Convention) (stamp : Option Stamp) (imports : Bool) (unit : String)
    (models : List Declaration) (root : Declaration) : List String :=
  (blockLines convention stamp imports unit models root).flatMap (· ++ [""]) ++
    [exportOf convention (some root.model)]

/-- Some fields make some lines. -/
theorem fieldsLines_ne_nil {fields : List Field} (some : fields ≠ []) (unit : String) :
    fieldsLines unit fields ≠ [] := by
  match fields, some with
  | [field], _ => exact List.cons_ne_nil _ _
  | field :: next :: more, _ => exact List.cons_ne_nil _ _

/-- A declaration has lines. -/
theorem declarationLines_ne_nil (unit before : String) (declaration : Declaration) :
    declarationLines unit before declaration ≠ [] := by
  unfold declarationLines
  dsimp only
  split
  · exact List.cons_ne_nil _ _
  · exact List.cons_ne_nil _ _

/-- Every block of a module has lines. -/
theorem blockLines_ne_nil {convention : Convention} {stamp : Option Stamp} {imports : Bool}
    {unit : String} {models : List Declaration} {root : Declaration} :
    ∀ block ∈ blockLines convention stamp imports unit models root, block ≠ [] := by
  intro block member
  simp only [blockLines, List.mem_append, List.mem_map, List.mem_singleton, Option.mem_toList,
    Option.map_eq_some_iff] at member
  rcases member with ((⟨stamp, _, rfl⟩ | imported) | ⟨model, _, rfl⟩) | rfl
  · exact List.cons_ne_nil _ _
  · split at imported
    · rw [List.mem_singleton.mp imported]
      exact List.cons_ne_nil _ _
    · cases imported
  · exact declarationLines_ne_nil _ _ _
  · exact declarationLines_ne_nil _ _ _

/-- The lines of fields are the printed fields. -/
theorem intercalate_fieldsLines (unit : String) {fields : List Field} (some : fields ≠ []) :
    String.intercalate "\n" (fieldsLines unit fields) =
      String.intercalate ",\n" (fields.map (field unit)) := by
  induction fields with
  | nil => exact absurd rfl some
  | cons one others ih =>
      cases others with
      | nil => simp [fieldsLines, fieldLines, field, String.append_assoc]
      | cons next more =>
          have nonempty := List.cons_ne_nil next more
          have own : fieldLines unit "," one ≠ [] := List.cons_ne_nil _ _
          have lines := fieldsLines_ne_nil nonempty unit
          rw [fieldsLines, String.intercalate_append_of_ne_nil own lines, ih nonempty]
          simp [fieldLines, field, String.append_assoc]

/-- The lines of a declaration are the printed declaration. -/
theorem intercalate_declarationLines (unit before : String) (declared : Declaration) :
    String.intercalate "\n" (declarationLines unit before declared) =
      before ++ declaration unit declared := by
  unfold declarationLines declaration
  by_cases none : declared.fields = []
  · simp [none, String.append_assoc]
  · have lines := fieldsLines_ne_nil none unit
    have more : fieldsLines unit declared.fields ++ ["\x7d);"] ≠ [] :=
      List.append_ne_nil_of_left_ne_nil lines _
    have last := List.cons_ne_nil "\x7d);" []
    dsimp only
    rw [if_neg none, if_neg none, String.intercalate_cons_of_ne_nil more,
      String.intercalate_append_of_ne_nil lines last, intercalate_fieldsLines unit none]
    simp only [String.intercalate_singleton, String.append_assoc]

/-- Blocks with a blank line behind each are their lines with an empty line behind each block. -/
theorem intercalate_blocks {blocks : List (List String)} (nonempty : ∀ block ∈ blocks, block ≠ [])
    (last : String) :
    String.intercalate "\n\n" (blocks.map (String.intercalate "\n") ++ [last]) =
      String.intercalate "\n" (blocks.flatMap (· ++ [""]) ++ [last]) := by
  induction blocks with
  | nil => rfl
  | cons block blocks ih =>
      obtain ⟨own, others⟩ := List.forall_mem_cons.mp nonempty
      have ended := List.cons_ne_nil last []
      have texts := List.append_ne_nil_of_right_ne_nil
        (blocks.map (String.intercalate "\n")) ended
      have lines := List.append_ne_nil_of_right_ne_nil (blocks.flatMap (· ++ [""])) ended
      rw [List.map_cons, List.cons_append, String.intercalate_cons_of_ne_nil texts, ih others,
        List.flatMap_cons, List.append_assoc, List.append_assoc, List.singleton_append,
        String.intercalate_append_of_ne_nil own (List.cons_ne_nil _ _),
        String.intercalate_cons_of_ne_nil lines]
      simp only [show "\n\n" = "\n" ++ ("" ++ "\n") from rfl, String.append_assoc]

/-- The blocks of a module with a blank line between each two are its lines. -/
theorem intercalate_moduleLines (convention : Convention) (stamp : Option Stamp) (imports : Bool)
    (unit : String) {registry : Registry} {models : List Declaration} {root : Declaration}
    (made : registry.models = models ++ [root]) :
    String.intercalate "\n\n" (blocks convention stamp imports unit registry) =
      String.intercalate "\n" (moduleLines convention stamp imports unit models root) := by
  have declared : declarations convention unit registry.models =
      (models.map (declarationLines unit (nested convention)) ++
        [declarationLines unit "" root]).map (String.intercalate "\n") := by
    rw [made, declarations, List.dropLast_concat, List.getLast?_concat, List.map_append,
      List.map_map]
    congr 1
    · exact List.map_congr_left fun model _ => (intercalate_declarationLines ..).symm
    · have own := intercalate_declarationLines unit "" root
      rw [String.empty_append] at own
      rw [List.map_singleton, own]
      rfl
  have header : (stamp.map header).toList =
      (stamp.map headerLines).toList.map (String.intercalate "\n") := by
    cases stamp <;> rfl
  have imported : (if imports then [importOf convention] else []) =
      (if imports then [[importOf convention]] else []).map (String.intercalate "\n") := by
    cases imports <;> rfl
  rw [moduleLines, ← intercalate_blocks blockLines_ne_nil, blocks, declared, header, imported,
    Registry.root?, made, List.getLast?_concat, blockLines]
  simp only [List.map_append, List.append_assoc, Option.map_some]

end Printed

namespace OrderCheck

/-- Every model that an accepted line refers to was declared before, there or on an earlier line,
and what the lines declare is found behind that. -/
theorem checkLines_eq_ok {declared found : List (List Char)} {lines : List (List Char)}
    (accepted : checkLines declared lines = .ok found) :
    found = declared ++ lines.filterMap declared? ∧
      ∀ before line after, lines = before ++ line :: after →
        ∀ name ∈ referenced line, name ∈ declared ++ before.filterMap declared? := by
  induction lines generalizing declared with
  | nil =>
      obtain rfl := Except.ok.inj accepted
      refine ⟨(List.append_nil _).symm, fun before line after cut => ?_⟩
      exact absurd cut (List.append_ne_nil_of_right_ne_nil _ (List.cons_ne_nil _ _)).symm
  | cons first lines ih =>
      rw [checkLines] at accepted
      split at accepted
      · cases accepted
      · next early =>
          have own : ∀ name ∈ referenced first, name ∈ declared := by
            intro name member
            have known := List.find?_eq_none.mp early name member
            simpa using known
          obtain ⟨rfl, later⟩ := ih accepted
          have shown : (first :: lines).filterMap declared? =
              (declared? first).toList ++ lines.filterMap declared? := by
            rw [List.filterMap_cons]
            cases declared? first <;> rfl
          refine ⟨by rw [shown, List.append_assoc], fun before line after cut name member => ?_⟩
          cases before with
          | nil =>
              obtain ⟨rfl, _⟩ := List.cons.inj cut
              rw [List.filterMap_nil, List.append_nil]
              exact own name member
          | cons other before =>
              obtain ⟨rfl, rest⟩ := List.cons.inj cut
              have behind := later before line after rest name member
              rw [List.append_assoc] at behind
              rw [List.filterMap_cons]
              cases shows : declared? first with
              | none => simpa [shows] using behind
              | some model => simpa [shows] using behind

/-- Lines that the check accepts behind some declared models, with the models that they refer to and
those that they declare. -/
structure Passes (declared : List (List Char)) (lines : List String)
    (references models : List String) : Prop where
  whole : ∀ line ∈ lines, '\n' ∉ line.toList ∧ '\r' ∉ line.toList
  accepted : checkLines declared (lines.map String.toList) =
    .ok (declared ++ models.map String.toList)
  refers : (lines.map String.toList).flatMap referenced = references.map String.toList

/-- The check of lines goes on from what it has found in the lines before. -/
theorem checkLines_append {declared found : List (List Char)} {first : List (List Char)}
    (accepted : checkLines declared first = .ok found) (second : List (List Char)) :
    checkLines declared (first ++ second) = checkLines found second := by
  induction first generalizing declared with
  | nil =>
      obtain rfl := Except.ok.inj accepted
      rfl
  | cons line first ih =>
      rw [checkLines] at accepted
      rw [List.cons_append, checkLines]
      split at accepted
      · cases accepted
      · exact ih accepted

namespace Passes

variable {declared : List (List Char)} {first second : List String}
  {references models moreReferences moreModels : List String}

/-- No lines are accepted and find nothing. -/
theorem nil (declared : List (List Char)) : Passes declared [] [] [] where
  whole := List.forall_mem_nil _
  accepted := by rw [List.map_nil, checkLines, List.append_nil]
  refers := rfl

/-- Lines are accepted if the later ones are with the models that the earlier ones declare. -/
theorem append (one : Passes declared first references models)
    (other : Passes (declared ++ models.map String.toList) second moreReferences moreModels) :
    Passes declared (first ++ second) (references ++ moreReferences) (models ++ moreModels) where
  whole := List.forall_mem_append.mpr ⟨one.whole, other.whole⟩
  accepted := by
    rw [List.map_append, checkLines_append one.accepted, other.accepted, List.map_append,
      List.append_assoc]
  refers := by
    rw [List.map_append, List.flatMap_append, one.refers, other.refers, List.map_append]

/-- Behind lines that declare nothing the check goes on as before them. -/
theorem skip (one : Passes declared first references [])
    (other : Passes declared second moreReferences models) :
    Passes declared (first ++ second) (references ++ moreReferences) models := by
  apply one.append
  rwa [List.map_nil, List.append_nil]

/-- A line passes behind the models that it refers to. -/
theorem line {line : String} {references : List String} {model : Option String}
    (reads : Reads line.toList (references.map String.toList) (model.map String.toList))
    (known : ∀ name ∈ references, name.toList ∈ declared) :
    Passes declared [line] references model.toList where
  whole := List.forall_mem_singleton.mpr reads.whole
  accepted := by
    have none : (referenced line.toList).find? (fun name => !declared.contains name) = none := by
      rw [reads.referenced, List.find?_eq_none]
      intro name member
      obtain ⟨name, among, rfl⟩ := List.mem_map.mp member
      simpa using known name among
    rw [List.map_singleton, checkLines, none]
    dsimp only
    rw [reads.declared, checkLines]
    cases model <;> rfl
  refers := by
    rw [List.map_singleton, List.flatMap_singleton, reads.referenced]

/-- A line that shows nothing passes anywhere. -/
theorem silent {line : String} (reads : Reads line.toList [] none)
    (declared : List (List Char)) : Passes declared [line] [] [] :=
  @Passes.line declared line [] none reads (List.forall_mem_nil _)

/-- What the check says of a text whose lines pass from its start. -/
theorem check {lines : List String} {last : String} {text : String}
    (passes : Passes [] (lines ++ [last]) references models) (nonempty : last ≠ "")
    (joined : text = String.intercalate "\n" (lines ++ [last])) :
    check text = .ok models.length ∧
      (Text.lines text.toList).filterMap declared? = models.map String.toList ∧
      (Text.lines text.toList).flatMap referenced = references.map String.toList ∧
      ∀ before line after, Text.lines text.toList = before ++ line :: after →
        ∀ name ∈ referenced line, name ∈ before.filterMap declared? := by
  have cut : Text.lines text.toList = (lines ++ [last]).map String.toList := by
    rw [joined, String.toList_intercalate, List.map_append, List.map_singleton]
    apply Text.lines_intercalate
    · intro line member
      rw [← List.map_singleton, ← List.map_append] at member
      obtain ⟨line, inside, rfl⟩ := List.mem_map.mp member
      exact passes.whole line inside
    · exact fun empty => nonempty (String.toList_eq_nil_iff.mp empty)
  have accepted := passes.accepted
  rw [← cut] at accepted
  obtain ⟨declares, earlier⟩ := checkLines_eq_ok accepted
  refine ⟨?_, ?_, ?_, earlier⟩
  · rw [OrderCheck.check, accepted]
    exact congrArg Except.ok (List.length_map _)
  · exact declares.symm
  · rw [cut]
    exact passes.refers

/-- Lines without references and declarations are accepted and find nothing. -/
theorem silentLines {lines : List String} (reads : ∀ line ∈ lines, Reads line.toList [] none)
    (declared : List (List Char)) : Passes declared lines [] [] := by
  induction lines generalizing declared with
  | nil => exact .nil declared
  | cons line lines ih =>
      obtain ⟨own, others⟩ := List.forall_mem_cons.mp reads
      exact (silent own declared).skip (ih others declared)

end Passes

end OrderCheck

/-- All names in a declaration are plain, or made from plain ones. -/
structure Declaration.IsPlain (declaration : Declaration) : Prop where
  model : IsPlainName declaration.model
  fields : ∀ field ∈ declaration.fields, IsPlainName field.key ∧ field.type.IsPlain

/-- The declaration of an object with plain keys is plain. -/
theorem Declaration.isPlain_of {name : String} (plain : IsPlainName name)
    {members : List (String × Json)} (plainKeys : ∀ member ∈ members, IsPlainName member.1) :
    (Declaration.of name (Field.ofMembers members)).IsPlain where
  model := plain
  fields := by
    intro field member
    have plainKey : IsPlainName field.key := by
      obtain ⟨key, value, among, rfl⟩ := Field.exists_of_mem_ofMembers member
      exact plainKeys _ among
    refine ⟨plainKey, fun model refers => ?_⟩
    obtain ⟨_, _, rfl, _⟩ := Field.refers_ofMembers member refers
    exact ⟨field.key, plainKey, rfl⟩

/-- All declarations for a document with plain names are plain. -/
theorem Registry.isPlain_ofRoot {root : String} {members : List (String × Json)}
    (plainRoot : IsPlainName root)
    (plainKeys : ∀ object, Json.Modelled members object →
      ∀ member ∈ object, IsPlainName member.1) :
    ∀ declaration ∈ (ofRoot root (.object members)).models, declaration.IsPlain := by
  intro declaration among
  obtain ⟨model, object, modelled, named, rfl⟩ := exists_modelled_of_mem_ofRoot among
  refine Declaration.isPlain_of ?_ (plainKeys object modelled)
  rcases named with rfl | ⟨outer, reached, member, inside, rfl⟩
  · exact plainRoot
  · exact (plainKeys outer reached member inside).nestedModel

/-- A type refers to the model inside its arrays. -/
theorem FieldType.model?_eq_some {type : FieldType} {model : String} :
    type.model? = some model ↔ type.innermost = .reference model := by
  unfold model?
  cases type.innermost <;> simp

namespace OrderCheck

open Printed

section Blocks

variable {declared : List (List Char)} {unit : List Char}
  (indents : ∀ character ∈ unit, character = ' ' ∨ character = '\t')

include indents

/-- The lines of a field are accepted once the model that it refers to is declared. -/
theorem passes_fieldLines {after : String} (closes : after = "" ∨ after = ",") {field : Field}
    (plainKey : IsPlainName field.key) (plainType : field.type.IsPlain)
    (known : ∀ model ∈ field.type.model?, model.toList ∈ declared) :
    Passes declared (fieldLines (String.ofList unit) after field) field.type.model?.toList [] := by
  have key : Reads (String.ofList unit ++ field.key ++ ": \x7b").toList [] none := by
    simpa using reads_keyLine indents plainKey
  have type : Reads (String.ofList unit ++ String.ofList unit ++ "type: " ++
      field.type.text).toList (field.type.model?.toList.map String.toList) none := by
    have reads := reads_typeLine indents plainType
    rw [← Option.toList_map]
    simpa [typeMark] using reads
  have close : Reads (String.ofList unit ++ "\x7d" ++ after).toList [] none := by
    have ends : '}' :: after.toList = ['}'] ∨ '}' :: after.toList = ['}', ','] := by
      rcases closes with rfl | rfl
      · exact .inl rfl
      · exact .inr rfl
    simpa using reads_closeLine indents ends
  have known : ∀ name ∈ field.type.model?.toList, name.toList ∈ declared := by
    simpa using known
  have typed := @Passes.line declared _ _ none type known
  have passed := (Passes.silent key declared).skip (typed.skip (Passes.silent close declared))
  rwa [List.nil_append, List.append_nil] at passed

/-- The lines of fields are accepted once the models that they refer to are declared. -/
theorem passes_fieldsLines {fields : List Field}
    (plain : ∀ field ∈ fields, IsPlainName field.key ∧ field.type.IsPlain)
    (known : ∀ field ∈ fields, ∀ model ∈ field.type.model?, model.toList ∈ declared) :
    Passes declared (fieldsLines (String.ofList unit) fields)
      (fields.filterMap fun field => field.type.model?) [] := by
  induction fields with
  | nil => exact .nil declared
  | cons field others ih =>
      obtain ⟨⟨plainKey, plainType⟩, plainOthers⟩ := List.forall_mem_cons.mp plain
      obtain ⟨own, knownOthers⟩ := List.forall_mem_cons.mp known
      have split : (field :: others).filterMap (fun field => field.type.model?) =
          field.type.model?.toList ++ others.filterMap fun field => field.type.model? := by
        rw [List.filterMap_cons]
        cases field.type.model? <;> rfl
      rw [split]
      cases others with
      | nil =>
          have last := passes_fieldLines indents (.inl rfl) plainKey plainType own
          rwa [List.filterMap_nil, List.append_nil]
      | cons next more =>
          have first := passes_fieldLines indents (.inr rfl) plainKey plainType own
          exact first.skip (ih plainOthers knownOthers)

/-- The lines of a declaration are accepted once the models of its references are declared. -/
theorem passes_declarationLines {before : String} (begins : before = "" ∨ before = "export ")
    {declaration : Declaration} (plain : declaration.IsPlain)
    (known : ∀ model ∈ declaration.references, model.toList ∈ declared) :
    Passes declared (declarationLines (String.ofList unit) before declaration)
      declaration.references [declaration.model] := by
  have opening : ∀ {after : String}, after = "" ∨ after = "\x7d);" →
      Passes declared
        [before ++ "const " ++ declaration.model ++ " = new JsonModel.define(\x7b" ++ after] []
        [declaration.model] := by
    intro after ends
    have start : before.toList = [] ∨ before.toList = "export ".toList := by
      rcases begins with rfl | rfl
      · exact .inl rfl
      · exact .inr rfl
    have last : "(\x7b".toList ++ after.toList = ['(', '{'] ∨
        "(\x7b".toList ++ after.toList = ['(', '{', '}', ')', ';'] := by
      rcases ends with rfl | rfl
      · exact .inl rfl
      · exact .inr rfl
    have reads := reads_declarationLine plain.model start last
    refine @Passes.line declared _ [] (some declaration.model) ?_ (List.forall_mem_nil _)
    have keyword : "const ".toList = declarationMark := rfl
    have call : " = new JsonModel.define(\x7b".toList = factoryMark ++ "(\x7b".toList := rfl
    simp only [String.toList_append, keyword, call, List.append_assoc]
    exact reads
  unfold declarationLines Declaration.references
  by_cases none : declaration.fields = []
  · have only := opening (.inr rfl)
    rw [if_pos none, none]
    exact only
  · have first := opening (.inl rfl)
    have knownBelow : ∀ field ∈ declaration.fields, ∀ model ∈ field.type.model?,
        model.toList ∈ declared ++ [declaration.model.toList] := by
      intro field member model refers
      exact List.mem_append_left _ (known model (List.mem_filterMap.mpr ⟨field, member, refers⟩))
    have fields := passes_fieldsLines indents plain.fields knownBelow
    have closes : Reads "\x7d);".toList [] Option.none :=
      .plain (by decide)
    have passed := first.append (fields.skip (.silent closes _))
    rw [String.append_empty, List.append_nil] at passed
    rw [if_neg none]
    exact passed

end Blocks

/-- References that are resolved by earlier declarations are known to the check. -/
theorem known_of_resolved {earlier : List Declaration} {declaration : Declaration}
    (resolved : ∀ field ∈ declaration.fields, ∀ model,
      field.type.innermost = .reference model → ∃ other ∈ earlier, other.model = model) :
    ∀ model ∈ declaration.references,
      model.toList ∈ (earlier.map Declaration.model).map String.toList := by
  intro model refers
  obtain ⟨field, member, refers⟩ := List.mem_filterMap.mp refers
  obtain ⟨other, among, rfl⟩ := resolved field member model (FieldType.model?_eq_some.mp refers)
  exact List.mem_map_of_mem (List.mem_map_of_mem among)

theorem reads_empty : Reads "".toList [] none :=
  .plain (by decide)

section Module

variable {unit : List Char} (indents : ∀ character ∈ unit, character = ' ' ∨ character = '\t')

include indents

/-- The models before the root pass one after the other, with an empty line behind each. -/
theorem passes_nested (convention : Convention) {models : List Declaration}
    (ordered : Registry.Ordered models) (plain : ∀ declaration ∈ models, declaration.IsPlain) :
    Passes [] ((models.map
        (declarationLines (String.ofList unit) (nested convention))).flatMap (· ++ [""]))
      (models.flatMap Declaration.references) (models.map Declaration.model) := by
  have begins : nested convention = "" ∨ nested convention = "export " := by
    cases convention with
    | cjs => exact .inl rfl
    | esm => exact .inr rfl
  induction ordered with
  | nil => exact .nil []
  | @concat earlier declaration ordered resolved ih =>
      obtain ⟨plainEarlier, plainLast⟩ := List.forall_mem_append.mp plain
      have own := plainLast declaration (List.mem_singleton_self _)
      have last := passes_declarationLines indents begins own (known_of_resolved resolved)
      have passed := (ih plainEarlier).append (last.append (.silent reads_empty _))
      simpa only [List.map_append, List.flatMap_append, List.map_singleton, List.flatMap_singleton,
        List.append_nil] using passed

/-- The lines of a module pass from the header to the export. -/
theorem passes_module (convention : Convention) (stamp : Option Stamp) (imports : Bool)
    {models : List Declaration} {root : Declaration}
    (ordered : Registry.Ordered (models ++ [root]))
    (plain : ∀ declaration ∈ models ++ [root], declaration.IsPlain) :
    Passes [] (moduleLines convention stamp imports (String.ofList unit) models root)
      ((models ++ [root]).flatMap Declaration.references)
      ((models ++ [root]).map Declaration.model) := by
  obtain ⟨plainModels, plainRoot⟩ := List.forall_mem_append.mp plain
  have own := plainRoot root (List.mem_singleton_self _)
  have header : Passes [] ((stamp.map headerLines).toList.flatMap (· ++ [""])) [] [] := by
    cases stamp with
    | none => exact .nil []
    | some stamp =>
        have lines := Passes.silentLines (reads_headerLines stamp) []
        have passed := lines.skip (.silent reads_empty [])
        rw [Option.map_some, Option.toList_some, List.flatMap_singleton]
        exact passed
  have imported : Passes [] ((if imports then [[importOf convention]]
      else []).flatMap (· ++ [""])) [] [] := by
    cases imports with
    | false => exact .nil []
    | true =>
        have passed := (Passes.silent (reads_import convention) []).skip (.silent reads_empty [])
        simpa using passed
  have exported := reads_export convention own.model
  generalize whole : models ++ [root] = all at ordered
  cases ordered with
  | nil => exact absurd whole (List.append_ne_nil_of_right_ne_nil _ (List.cons_ne_nil _ _))
  | @concat earlier last ordered resolved =>
      obtain ⟨rfl, same⟩ := List.append_inj' whole rfl
      obtain rfl := List.singleton_inj.mp same
      have nested := passes_nested indents convention ordered plainModels
      have declared := passes_declarationLines indents (.inl rfl) own (known_of_resolved resolved)
      have ended := declared.append ((Passes.silent reads_empty _).skip (.silent exported _))
      have passed := header.skip (imported.skip (nested.append ended))
      simpa [moduleLines, blockLines] using passed

end Module

/-- Options indent with spaces or tabs. -/
theorem isIndent_indentUnit (options : LayoutOptions) :
    ∀ character ∈ options.indentUnit, character = ' ' ∨ character = '\t' := by
  intro character member
  unfold LayoutOptions.indentUnit at member
  split at member
  · exact .inr (List.mem_singleton.mp member)
  · exact .inl (List.mem_replicate.mp member).2

/-- The text of a module for an object with plain names is lines that pass from its start. -/
theorem passes_execute (convention : Convention) (stamp : Option Stamp) (imports : Bool)
    (options : LayoutOptions) {root : String} {members : List (String × Json)}
    (plainRoot : IsPlainName root)
    (plainKeys : ∀ object, Json.Modelled members object →
      ∀ member ∈ object, IsPlainName member.1) :
    let registry := Registry.ofRoot root (.object members)
    ∃ lines last, last ≠ "" ∧
      (ModulePlan.stepwise convention stamp imports root (.object members) options).execute =
        String.intercalate "\n" (lines ++ [last]) ∧
      Passes [] (lines ++ [last]) (registry.models.flatMap Declaration.references)
        registry.names := by
  intro registry
  have plain : ∀ declaration ∈ registry.models, declaration.IsPlain :=
    Registry.isPlain_ofRoot plainRoot plainKeys
  have ordered : Registry.Ordered registry.models := by
    rw [show registry.models = Registry.appended root (.object members) from
      Registry.models_build root (.object members) .empty]
    exact Registry.ordered_appended root (.object members)
  have made : registry.models =
      Json.declaredBelow members ++ [.of root (Field.ofMembers members)] := by
    rw [show registry.models = _ from Registry.models_build .., Registry.appended, Json.declared]
    rfl
  obtain ⟨laid, -, -⟩ := format_text options convention stamp imports plainRoot.isSafeName
    fun object modelled member inside => (plainKeys object modelled member inside).isSafeName
  have passes := passes_module (isIndent_indentUnit options) convention stamp imports
    (made ▸ ordered) (made ▸ plain)
  rw [← made] at passes
  have nonempty : exportOf convention (some root) ≠ "" := by
    intro empty
    cases convention with
    | cjs => exact absurd (String.append_eq_empty_iff.mp empty).2 (by decide)
    | esm => exact absurd (String.append_eq_empty_iff.mp empty).2 (by decide)
  refine ⟨_, _, nonempty, ?_, passes⟩
  rw [ModulePlan.execute_stepwise, laid, intercalate_moduleLines _ _ _ _ made]
  rfl

/-- **Acceptance.** The order check accepts the text of a module for an object with a plain root
and plain keys, and counts its declarations. It finds on the lines, in order, each declaration once
and each reference once, and each model that a line refers to is declared on an earlier line. -/
theorem check_execute (convention : Convention) (stamp : Option Stamp) (imports : Bool)
    (options : LayoutOptions) {root : String} {members : List (String × Json)}
    (plainRoot : IsPlainName root)
    (plainKeys : ∀ object, Json.Modelled members object →
      ∀ member ∈ object, IsPlainName member.1) :
    let registry := Registry.ofRoot root (.object members)
    let text := (ModulePlan.stepwise convention stamp imports root (.object members) options).execute
    let lines := Text.lines text.toList
    check text = .ok registry.size ∧
      lines.filterMap declared? = registry.names.map String.toList ∧
      lines.flatMap referenced =
        (registry.models.flatMap Declaration.references).map String.toList ∧
      ∀ before line after, lines = before ++ line :: after →
        ∀ name ∈ referenced line, name ∈ before.filterMap declared? := by
  intro registry text lines
  obtain ⟨before, last, nonempty, joined, passes⟩ :=
    passes_execute convention stamp imports options plainRoot plainKeys
  have checked := passes.check nonempty joined
  rwa [show registry.names.length = registry.size from List.length_map _] at checked

/-- Keys that look like the marks of the check do not confuse it. -/
theorem check_execute_marks :
    let members := [("type", Json.object [("type", .string "a")]),
      ("const", .array [.object [("typeModel", .bool true)]])]
    let text := (ModulePlan.stepwise .esm none true "Root" (.object members) ⟨true, 4⟩).execute
    IsPlainName "Root" ∧
      (∀ object, Json.Modelled members object → ∀ member ∈ object, IsPlainName member.1) ∧
      check text = .ok 3 ∧
      (Text.lines text.toList).filterMap declared? =
        ["typeModel".toList, "constModel".toList, "Root".toList] ∧
      (Text.lines text.toList).flatMap referenced =
        ["typeModel".toList, "constModel".toList] := by
  intro members text
  have plainRoot : IsPlainName "Root" := by decide
  have plain : ∀ object ∈ Json.modelled (.object members), ∀ member ∈ object,
      IsPlainName member.1 := by
    decide
  have plainKeys : ∀ object, Json.Modelled members object →
      ∀ member ∈ object, IsPlainName member.1 :=
    fun object modelled => plain object modelled.mem_modelled
  obtain ⟨accepted, declares, refers, _⟩ :=
    check_execute .esm none true ⟨true, 4⟩ plainRoot plainKeys
  exact ⟨plainRoot, plainKeys, accepted, declares, refers⟩

end OrderCheck

end ModelScribe

import Mathlib.Data.List.Forall2
import ModelScribe.Module.Plan
import ModelScribe.Proofs.Module.DeclarationBlock
import ModelScribe.Proofs.Module.HeaderBlock
import ModelScribe.Proofs.Registry.DeclarationOrder

/-! # The printed module

The text of a module with a layout is its printed blocks with a blank line between
each two (`ModelScribe.ModulePlan.execute_eq_blocks`). Each part of the assembled
text is laid out as its block (`ModelScribe.Printed.Prints`), and the separators
between the parts as the blank lines (`ModelScribe.Printed.laidOut_parts`).
-/

namespace ModelScribe

open Layout Text

namespace Printed

variable {unit : List Char}

/-- A part of an assembled text is laid out as a block, at the start of the text or of a line. -/
structure Prints (unit : List Char) (part block : List Char) : Prop where
  begins : BeginsInked part
  blockBegins : BeginsInked block
  blockEnds : EndsInked block
  writes : ∀ place, (∀ spaceDue, place ≠ .inLine spaceDue) →
    Writes unit ⟨0, place⟩ part (Spot.gap unit ⟨0, place⟩ ++ block) ⟨0, .lineStart false⟩

/-- **Layout of parts.** Parts with separators between them are laid out as their blocks with a
blank line between each two. -/
theorem laidOut_parts {part block : List Char} {parts blocks : List (List Char)}
    (prints : Prints unit part block) (others : List.Forall₂ (Prints unit) parts blocks)
    {place : Place} (fresh : ∀ spaceDue, place ≠ .inLine spaceDue) :
    laidOut unit ⟨0, place⟩
        (List.intercalate Assembly.separator.toList (part :: parts) ++ ['\n']) =
      Spot.gap unit ⟨0, place⟩ ++ List.intercalate ['\n', '\n'] (block :: blocks) := by
  induction others generalizing part block place with
  | nil =>
      -- The final line feed leads to a spot at which nothing is written.
      have ended := laidOut_blanks unit ['\n'] [] (List.cons_ne_nil _ _)
        (by simp [isBlank]) (by simp) ⟨0, .lineStart false⟩
      have nothing : ∀ spot, laidOut unit spot [] = [] := by
        intro spot
        rw [laidOut, Piece.split]
        rfl
      rw [List.append_nil, nothing] at ended
      rw [List.intercalate_singleton, List.intercalate_singleton, prints.writes place fresh, ended,
        List.append_nil]
  | @cons next nextBlock parts blocks second others ih =>
      have begins := (second.begins.intercalate Assembly.separator.toList parts).append ['\n']
      have separated := laidOut_blanks unit Assembly.separator.toList _ (by decide)
        (by simp [Assembly.separator, isBlank]) begins.isBlank_head? ⟨0, .lineStart false⟩
      have blankLine : ∀ spaceDue, Place.lineStart true ≠ .inLine spaceDue := fun _ =>
        Place.noConfusion
      have behind := ih second blankLine
      rw [List.intercalate_cons_cons, List.intercalate_cons_cons, List.append_assoc,
        List.append_assoc, prints.writes place fresh, List.append_assoc, separated,
        List.append_assoc]
      exact congrArg (fun text => Spot.gap unit ⟨0, place⟩ ++ (block ++ text)) behind

/-- Statements that begin with words and end with a semicolon are printed as they are. -/
theorem prints_statement (unit first : List Char) (others : List (List Char))
    (isWord : IsWord first) (areWords : ∀ word ∈ others, IsWord word) :
    Prints unit (List.intercalate [' '] (first :: others) ++ [';'])
      (List.intercalate [' '] (first :: others) ++ [';']) where
  begins := (isWord.beginsInked.intercalate _ _).append _
  blockBegins := (isWord.beginsInked.intercalate _ _).append _
  blockEnds := ⟨_, ';', rfl, by decide⟩
  writes place _ := by
    have written := (Writes.words unit first others isWord areWords ⟨0, place⟩).append
      (Writes.semicolon unit 0 false)
    rwa [List.append_assoc] at written

/-- The import is printed as it is. -/
theorem prints_import (convention : Convention) :
    Prints unit (importOf convention).toList (importOf convention).toList := by
  cases convention with
  | cjs =>
      refine ⟨⟨'c', _, rfl, by decide⟩, ⟨'c', _, rfl, by decide⟩,
        ⟨"const JsonModel = require('jsonmodel-js/cjs')".toList, ';', by decide, by decide⟩,
        fun place _ => ?_⟩
      have words := Writes.words unit "const".toList
        ["JsonModel".toList, ['='], "require(".toList] (by decide) (by decide) ⟨0, place⟩
      have package := Writes.literal unit '\'' "jsonmodel-js/cjs".toList (by decide) (by decide)
        (by decide) ⟨0, .inLine false⟩
      have closed := (Writes.closer unit ')' (by decide) 0 false).append
        (Writes.semicolon unit 0 false)
      have written := words.append (package.append closed)
      simpa [importOf] using written
  | esm =>
      refine ⟨⟨'i', _, rfl, by decide⟩, ⟨'i', _, rfl, by decide⟩,
        ⟨"import JsonModel from 'jsonmodel-js/esm'".toList, ';', by decide, by decide⟩,
        fun place _ => ?_⟩
      have words := Writes.words unit "import".toList ["JsonModel".toList, "from".toList]
        (by decide) (by decide) ⟨0, place⟩
      have package := Writes.literal unit '\'' "jsonmodel-js/esm".toList (by decide) (by decide)
        (by decide) ⟨0, .inLine true⟩
      have written := words.append ((Writes.space unit ⟨0, .inLine false⟩).append
        (package.append (Writes.semicolon unit 0 false)))
      simpa [importOf] using written

/-- The export is printed as it is. -/
theorem prints_export (convention : Convention) {root : String} (safe : IsSafeName root) :
    Prints unit (exportOf convention (some root)).toList
      (exportOf convention (some root)).toList := by
  have name := safe.isWord
  cases convention with
  | cjs =>
      have areWords : ∀ word ∈ [['='], root.toList], IsWord word :=
        List.forall_mem_cons.mpr ⟨by decide, List.forall_mem_singleton.mpr name⟩
      have printed := prints_statement unit "module.exports".toList [['='], root.toList]
        (by decide) areWords
      have whole : (exportOf .cjs (some root)).toList =
          List.intercalate [' '] ["module.exports".toList, ['='], root.toList] ++ [';'] := by
        show ("module.exports = " ++ root ++ ";").toList = _
        simp
      rw [whole]
      exact printed
  | esm =>
      have areWords : ∀ word ∈ ["default".toList, root.toList], IsWord word :=
        List.forall_mem_cons.mpr ⟨by decide, List.forall_mem_singleton.mpr name⟩
      have printed := prints_statement unit "export".toList ["default".toList, root.toList]
        (by decide) areWords
      have whole : (exportOf .esm (some root)).toList =
          List.intercalate [' '] ["export".toList, "default".toList, root.toList] ++ [';'] := by
        show ("export default " ++ root ++ ";").toList = _
        simp
      rw [whole]
      exact printed

theorem beginsInked_headerOf (year time : String) : BeginsInked (headerOf year time).toList := by
  rw [headerOf, String.toList_intercalate]
  exact BeginsInked.intercalate ⟨'/', _, rfl, by decide⟩ _ _

/-- The header ends with something to see. -/
theorem endsInked_headerOf (year time : String) : EndsInked (headerOf year time).toList := by
  have ends : EndsInked " */".toList := ⟨[' ', '*'], '/', rfl, by decide⟩
  rw [headerOf, String.toList_intercalate]
  simp only [List.map_cons, List.map_nil, List.intercalate_cons_cons, List.intercalate_singleton]
  iterate 5 refine EndsInked.append ?_ _
  exact ends

/-- The header is printed with each line set by itself. -/
theorem prints_header (stamp : Stamp) :
    Prints unit (assembledHeader (toString stamp.year) stamp.text) (header stamp).toList where
  begins := BeginsInked.intercalate ⟨'/', _, rfl, by decide⟩ _ _
  blockBegins := beginsInked_headerOf _ _
  blockEnds := endsInked_headerOf _ _
  writes _ fresh := writes_header stamp fresh

/-- The text of a declaration is printed as its block. -/
theorem prints_declaration (unit : List Char) {declared : Declaration} (safe : declared.IsSafe) :
    Prints unit declared.rendered.toList (declaration (String.ofList unit) declared).toList where
  begins := by
    rw [safe.rendered]
    simp only [declarationText, String.toList_append, List.append_assoc]
    exact BeginsInked.append ⟨'c', _, rfl, by decide⟩ _
  blockBegins := by
    simp only [declaration, String.toList_append, List.append_assoc]
    exact BeginsInked.append ⟨'c', _, rfl, by decide⟩ _
  blockEnds := by
    rw [declaration, String.toList_append]
    exact EndsInked.append ⟨['\x7d', ')'], ';', by decide, by decide⟩ _
  writes place _ := writes_declaration unit safe place

/-- What stands before a declaration is printed before it. -/
theorem prints_nested (convention : Convention) {declared : Declaration} (safe : declared.IsSafe) :
    Prints unit (convention.nestedDeclaration declared.rendered).toList
      (nested convention ++ declaration (String.ofList unit) declared).toList := by
  have own := prints_declaration unit safe
  cases convention with
  | cjs => simpa [nested, Convention.nestedDeclaration] using own
  | esm =>
      have word : IsWord "export".toList := by decide
      have source : (Convention.esm.nestedDeclaration declared.rendered).toList =
          "export".toList ++ ([' '] ++ declared.rendered.toList) := by
        simp [Convention.nestedDeclaration]
      have block : (nested .esm ++ declaration (String.ofList unit) declared).toList =
          "export".toList ++ ' ' :: (declaration (String.ofList unit) declared).toList := by
        simp [nested]
      rw [source, block]
      refine ⟨word.beginsInked.append _, word.beginsInked.append _,
        (own.blockEnds.append [' ']).append _, fun place _ => ?_⟩
      have written := (Writes.word unit word ⟨0, place⟩).append
        ((Writes.space unit ⟨0, .inLine false⟩).append
          (writes_declaration unit safe (.inLine true)))
      rw [List.append_assoc] at written
      exact written

/-- The declarations of a registry are printed one by one. -/
theorem prints_declarations (convention : Convention) {models : List Declaration}
    (safe : ∀ declared ∈ models, declared.IsSafe) :
    List.Forall₂ (Prints unit)
      ((Assembly.declarations convention models).map String.toList)
      ((declarations convention (String.ofList unit) models).map String.toList) := by
  induction models with
  | nil => exact .nil
  | cons first others ih =>
      have own := safe first (List.mem_cons_self ..)
      cases others with
      | nil => exact .cons (prints_declaration unit own) .nil
      | cons next others =>
          have behind := ih fun declared member => safe declared (List.mem_cons_of_mem _ member)
          exact .cons (prints_nested convention own) behind

end Printed

/-- A model under a safe name is named by one. -/
theorem IsSafeName.nestedModel {key : String} (safe : IsSafeName key) :
    IsSafeName (nestedModel key) := by
  obtain ⟨nonempty, characters⟩ := safe
  have model : IsSafeName "Model" := by decide
  refine ⟨fun empty => nonempty (String.append_eq_empty_iff.mp empty).1, fun character member => ?_⟩
  rw [ModelScribe.nestedModel, String.toList_append] at member
  rcases List.mem_append.mp member with member | member
  · exact characters character member
  · exact model.2 character member

/-- The declaration of an object with safe keys is safe. -/
theorem Declaration.isSafe_of {name : String} (safe : IsSafeName name)
    {members : List (String × Json)} (safeKeys : ∀ member ∈ members, IsSafeName member.1) :
    (Declaration.of name (Field.ofMembers members)).IsSafe where
  rendered := rfl
  model := safe
  fields := by
    intro field member
    have safeKey : IsSafeName field.key := by
      obtain ⟨key, value, among, rfl⟩ := Field.exists_of_mem_ofMembers member
      exact safeKeys _ among
    refine ⟨safeKey, fun model refers => ?_⟩
    obtain ⟨value, among, rfl, _⟩ := Field.refers_ofMembers member refers
    exact (safeKeys _ among).nestedModel

/-- All declarations for a document with safe names are safe. -/
theorem Registry.isSafe_ofRoot {root : String} {members : List (String × Json)}
    (safeRoot : IsSafeName root)
    (safeKeys : ∀ object, Json.Modelled members object → ∀ member ∈ object, IsSafeName member.1) :
    ∀ declaration ∈ (ofRoot root (.object members)).models, declaration.IsSafe := by
  intro declaration among
  obtain ⟨model, object, modelled, named, rfl⟩ := exists_modelled_of_mem_ofRoot among
  refine Declaration.isSafe_of ?_ (safeKeys object modelled)
  rcases named with rfl | ⟨outer, reached, member, inside, rfl⟩
  · exact safeRoot
  · exact (safeKeys outer reached member inside).nestedModel

namespace Printed

/-- The parts of a module, without the line feed before the header. -/
def assembledParts (convention : Convention) (stamp : Option Stamp) (imports : Bool)
    (registry : Registry) : List (List Char) :=
  (stamp.map fun stamp => assembledHeader (toString stamp.year) stamp.text).toList ++
    (Assembly.partsOf { convention, imports } registry).map String.toList

/-- The parts of a module are never none. -/
theorem exists_assembledParts (convention : Convention) (stamp : Option Stamp) (imports : Bool)
    (registry : Registry) :
    ∃ part parts, assembledParts convention stamp imports registry = part :: parts := by
  refine List.exists_cons_of_ne_nil fun empty => ?_
  simp [assembledParts, Assembly.partsOf] at empty

/-- The assembled text, its header's line feed in front of the parts. -/
theorem toList_text (convention : Convention) (stamp : Option Stamp) (imports : Bool)
    (registry : Registry) :
    (Assembly.emit { convention, header := stamp, imports } registry).text.toList =
      (stamp.map fun _ => '\n').toList ++ (List.intercalate Assembly.separator.toList
        (assembledParts convention stamp imports registry) ++ ['\n']) := by
  rw [Assembly.text, Assembly.emit, String.toList_append, String.toList_intercalate]
  cases stamp with
  | none => rfl
  | some stamp =>
      have parts : Assembly.partsOf { convention, header := some stamp, imports } registry =
          headerText stamp :: Assembly.partsOf { convention, imports } registry := rfl
      rw [List.nil_append, parts, List.map_cons, toList_headerText, List.intercalate_cons_cons_left]
      rfl

/-- The parts of a module are printed one by one. -/
theorem prints_assembledParts (unit : List Char) (convention : Convention) (stamp : Option Stamp)
    (imports : Bool) {registry : Registry}
    (safe : ∀ declaration ∈ registry.models, declaration.IsSafe) {root : String}
    (safeRoot : IsSafeName root)
    (named : registry.root?.map Declaration.model = some root) :
    List.Forall₂ (Prints unit) (assembledParts convention stamp imports registry)
      ((blocks convention stamp imports (String.ofList unit) registry).map String.toList) := by
  have ended : List.Forall₂ (Prints unit)
      ((Assembly.declarations convention registry.models ++
        [exportOf convention (some root)]).map String.toList)
      ((declarations convention (String.ofList unit) registry.models ++
        [exportOf convention (some root)]).map String.toList) := by
    rw [List.map_append, List.map_append]
    exact List.rel_append (prints_declarations convention safe)
      (.cons (prints_export convention safeRoot) .nil)
  have body : List.Forall₂ (Prints unit)
      ((Assembly.partsOf { convention, imports } registry).map String.toList)
      ((blocks convention none imports (String.ofList unit) registry).map String.toList) := by
    rw [Assembly.partsOf, blocks, named, importStatement_eq, exportStatement_eq, List.append_assoc,
      List.append_assoc]
    cases imports with
    | false => exact ended
    | true => exact .cons (prints_import convention) ended
  cases stamp with
  | none => exact body
  | some stamp => exact .cons (prints_header stamp) body

/-- The blocks of printed parts have no blanks at the ends. -/
theorem inked_blocks {part block : List Char} {parts blocks : List (List Char)}
    (prints : Prints unit part block) (others : List.Forall₂ (Prints unit) parts blocks)
    (separator : List Char) :
    BeginsInked (List.intercalate separator (block :: blocks)) ∧
      EndsInked (List.intercalate separator (block :: blocks)) := by
  refine ⟨prints.blockBegins.intercalate separator blocks, endsInked_intercalate separator ?_⟩
  intro text member
  rcases List.mem_cons.mp member with rfl | later
  · exact prints.blockEnds
  · clear member prints
    induction others with
    | nil => cases later
    | cons first _ ih =>
        rcases List.mem_cons.mp later with rfl | later
        · exact first.blockEnds
        · exact ih later

/-- **Layout of a module.** The text of a module, with or without a header, is laid out as its
blocks with a blank line between each two, and without blanks at the ends. -/
theorem laidOut_text (unit : List Char) (convention : Convention) (stamp : Option Stamp)
    (imports : Bool) {registry : Registry}
    (safe : ∀ declaration ∈ registry.models, declaration.IsSafe) {root : String}
    (safeRoot : IsSafeName root)
    (named : registry.root?.map Declaration.model = some root) :
    let laid := laidOut unit .start
      (Assembly.emit { convention, header := stamp, imports } registry).text.toList
    laid = (String.intercalate "\n\n"
        (blocks convention stamp imports (String.ofList unit) registry)).toList ∧
      BeginsInked laid ∧ EndsInked laid := by
  intro laid
  have all := prints_assembledParts unit convention stamp imports safe safeRoot named
  obtain ⟨part, parts, assembled⟩ := exists_assembledParts convention stamp imports registry
  have source := toList_text convention stamp imports registry
  rw [assembled] at source all
  rw [String.toList_intercalate]
  generalize (blocks convention stamp imports (String.ofList unit) registry).map String.toList =
    printed at all ⊢
  cases all with
  | @cons _ block _ blocks prints others =>
      have whole : laid = List.intercalate ['\n', '\n'] (block :: blocks) := by
        have start : ∀ spaceDue, Place.textStart ≠ .inLine spaceDue := fun _ => Place.noConfusion
        have text := laidOut_parts prints others start
        cases stamp with
        | none => exact (congrArg (laidOut unit .start) source).trans text
        | some stamp =>
            -- The line feed before a header makes no difference at the start of the text.
            have begins := (prints.begins.intercalate Assembly.separator.toList parts).append ['\n']
            have fed := laidOut_blanks unit ['\n'] _ (by decide) (by simp [isBlank])
              begins.isBlank_head? .start
            exact (congrArg (laidOut unit .start) source).trans (fed.trans text)
      have inked := inked_blocks prints others ['\n', '\n']
      rw [← whole] at inked
      exact ⟨whole, inked⟩

/-- The module of an object with safe names is printed as its blocks. -/
theorem format_text (options : LayoutOptions) (convention : Convention) (stamp : Option Stamp)
    (imports : Bool) {root : String} {members : List (String × Json)} (safeRoot : IsSafeName root)
    (safeKeys : ∀ object, Json.Modelled members object → ∀ member ∈ object, IsSafeName member.1) :
    let registry := Registry.ofRoot root (.object members)
    let text := Layout.format options
      (Assembly.emit { convention, header := stamp, imports } registry).text
    text = String.intercalate "\n\n"
        (blocks convention stamp imports (String.ofList options.indentUnit) registry) ∧
      BeginsInked text.toList ∧ EndsInked text.toList := by
  intro registry text
  obtain ⟨laid, begins, ends⟩ := laidOut_text options.indentUnit convention stamp imports
    (Registry.isSafe_ofRoot safeRoot safeKeys) safeRoot (Registry.model_root?_ofRoot root members)
  have printed : text.toList = _ :=
    (congrArg String.toList (format_eq_laidOut ..)).trans String.toList_ofList
  rw [← printed] at laid begins ends
  exact ⟨String.toList_inj.mp laid, begins, ends⟩

end Printed

namespace ModulePlan

/-- The plan of a module for a sample, with the header and the import only where they are asked
for. -/
def stepwise (convention : Convention) (stamp : Option Stamp) (imports : Bool) (root : String)
    (sample : Json) (options : LayoutOptions) : ModulePlan :=
  let begun := stamp.elim (new convention) fun stamp => (new convention).withHeader stamp
  let stated := if imports then begun.withImport else begun
  (stated.define root sample).withLayout options

/-- A plan that is made step by step lays out the assembled text. -/
theorem execute_stepwise (convention : Convention) (stamp : Option Stamp) (imports : Bool)
    (root : String) (sample : Json) (options : LayoutOptions) :
    (stepwise convention stamp imports root sample options).execute =
      Layout.format options (Assembly.emit { convention, header := stamp, imports }
        (.ofRoot root sample)).text := by
  cases stamp <;> cases imports <;> rfl

/-- **The text of a module.** For a root and keys with safe names, the text of a module with a
layout is its printed blocks with a blank line between each two, and no line feed comes before or
after them. -/
theorem execute_eq_blocks (convention : Convention) (stamp : Option Stamp) (imports : Bool)
    (options : LayoutOptions) {root : String} {members : List (String × Json)}
    (safeRoot : IsSafeName root)
    (safeKeys : ∀ object, Json.Modelled members object → ∀ member ∈ object, IsSafeName member.1) :
    let text := (stepwise convention stamp imports root (.object members) options).execute
    text = String.intercalate "\n\n" (Printed.blocks convention stamp imports
        (String.ofList options.indentUnit) (.ofRoot root (.object members))) ∧
      text.toList.head? ≠ some '\n' ∧ text.toList.getLast? ≠ some '\n' := by
  intro text
  have printed : text = _ := execute_stepwise convention stamp imports root _ options
  obtain ⟨laid, begins, ends⟩ :=
    Printed.format_text options convention stamp imports safeRoot safeKeys
  rw [← printed] at laid begins ends
  refine ⟨laid, fun head => ?_, fun last => ?_⟩
  · exact absurd (begins.isBlank_head? '\n' head) (by decide)
  · exact absurd (ends.isBlank_getLast? '\n' last) (by decide)

/-- The module of an object with an array of objects, with the import and without a header. -/
theorem execute_eq_blocks_nested :
    let members := [("id", Json.string "a"), ("lines", .array [.object [("name", .string "b")]])]
    IsSafeName "Order" ∧
      (∀ object, Json.Modelled members object → ∀ member ∈ object, IsSafeName member.1) ∧
      (stepwise .esm none true "Order" (.object members) ⟨false, 2⟩).execute =
        String.intercalate "\n"
          ["import JsonModel from 'jsonmodel-js/esm';", "",
            "export const linesModel = new JsonModel.define(\x7b", "  name: \x7b",
            "    type: 'String'", "  \x7d", "\x7d);", "",
            "const Order = new JsonModel.define(\x7b", "  id: \x7b", "    type: 'String'",
            "  \x7d,", "  lines: \x7b", "    type: [linesModel]", "  \x7d", "\x7d);", "",
            "export default Order;"] := by
  intro members
  have safeRoot : IsSafeName "Order" := by decide
  have plain : ∀ object ∈ Json.modelled (.object members), ∀ member ∈ object,
      IsSafeName member.1 := by
    decide
  have safeKeys : ∀ object, Json.Modelled members object →
      ∀ member ∈ object, IsSafeName member.1 :=
    fun object modelled => plain object modelled.mem_modelled
  refine ⟨safeRoot, safeKeys, ?_⟩
  rw [(execute_eq_blocks .esm none true ⟨false, 2⟩ safeRoot safeKeys).1]
  decide +kernel

end ModulePlan

end ModelScribe

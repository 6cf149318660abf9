import Mathlib.Data.List.Chain
import ModelScribe.Proofs.Module.HeaderBlock

/-! # Parts of an assembled text

The text of a module can be cut into its parts again
(`ModelScribe.Assembly.cutAt_text`). A separator has two line feeds in a row, and
no part has: the lines of a header are not empty, and the other parts are one line
each. So a separator is found neither inside a part nor across the end of one
(`ModelScribe.Text.cutAt_intercalate`).
-/

namespace ModelScribe

namespace Text

/-- What stands between the occurrences of a mark, which are looked for from left to right and
each behind the end of the last one. -/
def cutAt (mark : List Char) : List Char → List (List Char)
  | [] => [[]]
  | character :: rest =>
      if mark <+: character :: rest then [] :: cutAt mark (rest.drop (mark.length - 1))
      else (cutAt mark rest).modifyHead (character :: ·)
termination_by text => text.length
decreasing_by
  all_goals simp only [List.length_drop, List.length_cons]; omega

/-- The mark does not begin in a part that stands before a text. -/
def Apart (mark part text : List Char) : Prop :=
  ∀ rest, rest <:+ part → rest ≠ [] → ¬ mark <+: rest ++ text

variable {mark : List Char}

/-- A text is not cut before the mark that ends its first part. -/
theorem cutAt_append {part text : List Char} (apart : Apart mark part text) :
    cutAt mark (part ++ text) = (cutAt mark text).modifyHead (part ++ ·) := by
  induction part with
  | nil => exact (congrFun List.modifyHead_id _).symm
  | cons character part ih =>
      have here := apart _ (List.suffix_refl _) (List.cons_ne_nil character part)
      have behind : Apart mark part text :=
        fun rest ends => apart rest (ends.trans (List.suffix_cons character part))
      rw [List.cons_append] at here ⊢
      rw [cutAt, if_neg here, ih behind, List.modifyHead_modifyHead]
      rfl

/-- A mark at the beginning of a text is cut away. -/
theorem cutAt_mark (nonempty : mark ≠ []) (text : List Char) :
    cutAt mark (mark ++ text) = [] :: cutAt mark text := by
  obtain ⟨character, rest, rfl⟩ := List.exists_cons_of_ne_nil nonempty
  have here : character :: rest <+: character :: (rest ++ text) :=
    List.prefix_append (character :: rest) text
  rw [List.cons_append, cutAt, if_pos here]
  simp

/-- **Cutting joined parts.** Parts with a mark between each two are found again, if the mark
begins in none of them. -/
theorem cutAt_intercalate (nonempty : mark ≠ []) {part : List Char} {parts : List (List Char)}
    (last : ∀ part' ∈ part :: parts, Apart mark part' [])
    (between : ∀ part' ∈ part :: parts, ∀ text, Apart mark part' (mark ++ text)) :
    cutAt mark (List.intercalate mark (part :: parts)) = part :: parts := by
  induction parts generalizing part with
  | nil =>
      have whole := cutAt_append (last part (List.mem_cons_self ..))
      have none : cutAt mark [] = [[]] := by rw [cutAt]
      rw [none, List.append_nil] at whole
      rw [List.intercalate_singleton, whole]
      simp
  | cons next parts ih =>
      have others := ih (fun other member => last other (List.mem_cons_of_mem _ member))
        fun other member => between other (List.mem_cons_of_mem _ member)
      have first := between part (List.mem_cons_self ..) (List.intercalate mark (next :: parts))
      rw [List.intercalate_cons_cons, List.append_assoc, cutAt_append first, cutAt_mark nonempty,
        others]
      simp

/-- No line feed comes right behind another one. -/
def LacksBlankLine (text : List Char) : Prop :=
  text.IsChain fun first second => ¬ (first = '\n' ∧ second = '\n')

/-- A text on one line has no blank line. -/
theorem lacksBlankLine_of_not_mem {text : List Char} (inLine : '\n' ∉ text) :
    LacksBlankLine text := by
  apply List.Pairwise.isChain
  apply List.pairwise_of_forall_mem_list
  rintro first among second _ ⟨rfl, _⟩
  exact inLine among

/-- Lines that are not empty have no line feeds in a row between them. -/
theorem lacksBlankLine_intercalate {line : List Char} {lines : List (List Char)}
    (written : ∀ line' ∈ line :: lines, line' ≠ [] ∧ '\n' ∉ line') :
    LacksBlankLine ('\n' :: List.intercalate ['\n'] (line :: lines)) := by
  have alone : ∀ line' ∈ line :: lines, LacksBlankLine ('\n' :: line') := by
    intro line' member
    obtain ⟨nonempty, inLine⟩ := written line' member
    obtain ⟨first, more, rfl⟩ := List.exists_cons_of_ne_nil nonempty
    refine List.isChain_cons_cons.mpr ⟨?_, lacksBlankLine_of_not_mem inLine⟩
    rintro ⟨_, rfl⟩
    exact inLine (List.mem_cons_self ..)
  induction lines generalizing line with
  | nil =>
      rw [List.intercalate_singleton]
      exact alone line (List.mem_cons_self ..)
  | cons next lines ih =>
      have own := alone line (List.mem_cons_self ..)
      have others := ih (fun line' member => written line' (List.mem_cons_of_mem _ member))
        fun line' member => alone line' (List.mem_cons_of_mem _ member)
      obtain ⟨nonempty, inLine⟩ := written line (List.mem_cons_self ..)
      rw [List.intercalate_cons_cons, List.append_assoc, List.singleton_append, ← List.cons_append]
      refine List.isChain_append.mpr ⟨own, others, ?_⟩
      rintro last among _ _ ⟨rfl, _⟩
      rw [List.getLast?_cons_of_ne_nil nonempty] at among
      exact inLine (List.mem_of_getLast? among)

/-- A separator has line feeds in a row, so it does not begin in a text without. -/
theorem apart_of_lacksBlankLine {part text : List Char} (lacks : LacksBlankLine part)
    (stops : ∀ next ∈ text.head?, next ≠ '\n') : Apart Assembly.separator.toList part text := by
  rintro rest ends nonempty begins
  have own : LacksBlankLine rest := lacks.suffix ends
  have shape : Assembly.separator.toList = [' ', '\n', '\n', ' '] := rfl
  rw [shape] at begins
  -- the first line feed of the separator would stand in the part, and with it the second one
  cases rest with
  | nil => exact nonempty rfl
  | cons first rest =>
      have behind := (List.cons_prefix_cons.mp begins).2
      cases rest with
      | nil =>
          cases text with
          | nil => simp at behind
          | cons next text => exact stops next rfl (List.cons_prefix_cons.mp behind).1.symm
      | cons second rest =>
          obtain ⟨feed, behind⟩ := List.cons_prefix_cons.mp behind
          cases rest with
          | nil =>
              cases text with
              | nil => simp at behind
              | cons next text => exact stops next rfl (List.cons_prefix_cons.mp behind).1.symm
          | cons third rest =>
              have apart := (List.isChain_cons_cons.mp (List.isChain_cons_cons.mp own).2).1
              exact apart ⟨feed.symm, (List.cons_prefix_cons.mp behind).1.symm⟩

end Text

open Text

namespace Printed

/-- The header as a part: behind a line feed, and with a blank behind the time. -/
def headerPart (stamp : Stamp) : String :=
  String.intercalate "\n"
    ["", "/**", "  * Copyright " ++ toString stamp.year ++ " jsonmodel-js",
      "  * Auto-generated: " ++ stamp.text ++ " ", "  *", "  * @author jsonmodel-gen", "  */"]

/-- The parts of a module as they are assembled for a registry: every declaration but the last one
is nested, and the last one is exported. -/
def parts (convention : Convention) (header : Option Stamp) (imports : Bool)
    (registry : Registry) : List String :=
  (header.map headerPart).toList ++ (if imports then [importOf convention] else []) ++
    registry.models.dropLast.map (fun model => nested convention ++ model.rendered) ++
    (registry.models.getLast?.map Declaration.rendered).toList ++
    [exportOf convention (registry.models.getLast?.map Declaration.model)]

/-- The header of the program is the one that is written out here. -/
theorem headerText_eq (stamp : Stamp) : headerText stamp = headerPart stamp := by
  rw [← String.toList_inj, toList_headerText, headerPart, String.toList_intercalate]
  simp [assembledHeader, starredLines]

/-- A header is assembled of lines that are not empty. -/
theorem lacksBlankLine_assembledHeader {year time : String} (wholeYear : '\n' ∉ year.toList)
    (wholeTime : '\n' ∉ time.toList) : LacksBlankLine ('\n' :: assembledHeader year time) := by
  apply lacksBlankLine_intercalate
  simpa [starredLines] using ⟨wholeYear, wholeTime⟩

/-- There is no blank line in the header. -/
theorem lacksBlankLine_headerPart (stamp : Stamp) : LacksBlankLine (headerPart stamp).toList := by
  rw [← headerText_eq, toList_headerText]
  exact lacksBlankLine_assembledHeader (Stamp.isMarked_toString stamp.year).apart.1
    stamp.isMarked_text.apart.1

theorem lineFeed_not_mem_importOf (convention : Convention) :
    '\n' ∉ (importOf convention).toList := by
  cases convention <;> decide

/-- An export is on one line if the name of its model is. -/
theorem lineFeed_not_mem_exportOf (convention : Convention) {model : Option String}
    (inLine : ∀ name ∈ model, '\n' ∉ name.toList) :
    '\n' ∉ (exportOf convention model).toList := by
  cases model with
  | none => cases convention <;> decide
  | some name =>
      have apart : '\n' ∉ name.toList := inLine name rfl
      have framed : ∀ before : String, '\n' ∉ before.toList →
          '\n' ∉ (before ++ name ++ ";").toList := by
        intro before inside
        simp [inside, apart]
      cases convention with
      | cjs => exact framed "module.exports = " (by decide)
      | esm => exact framed "export default " (by decide)

theorem lineFeed_not_mem_nested (convention : Convention) {rendered : String}
    (inLine : '\n' ∉ rendered.toList) : '\n' ∉ (nested convention ++ rendered).toList := by
  cases convention <;> simp [nested, inLine]

/-- The parts of a module have no line feeds in a row. -/
theorem lacksBlankLine_parts (convention : Convention) (header : Option Stamp) (imports : Bool)
    {registry : Registry} (inLine : ∀ declaration ∈ registry.models,
      '\n' ∉ declaration.model.toList ∧ '\n' ∉ declaration.rendered.toList) :
    ∀ part ∈ parts convention header imports registry, LacksBlankLine part.toList := by
  intro part member
  simp only [parts, List.mem_append, List.mem_singleton] at member
  rcases member with (((stamped | imported) | declared) | root) | rfl
  · cases header with
    | none => cases stamped
    | some stamp =>
        rw [Option.map_some, Option.toList_some, List.mem_singleton] at stamped
        rw [stamped]
        exact lacksBlankLine_headerPart stamp
  · split at imported
    · rw [List.mem_singleton.mp imported]
      exact lacksBlankLine_of_not_mem (lineFeed_not_mem_importOf convention)
    · cases imported
  · obtain ⟨declaration, among, rfl⟩ := List.mem_map.mp declared
    have whole := inLine declaration (List.dropLast_subset _ among)
    exact lacksBlankLine_of_not_mem (lineFeed_not_mem_nested convention whole.2)
  · cases last : registry.models.getLast? with
    | none => simp [last] at root
    | some declaration =>
        rw [last, Option.map_some, Option.toList_some, List.mem_singleton] at root
        rw [root]
        exact lacksBlankLine_of_not_mem (inLine declaration (List.mem_of_getLast? last)).2
  · apply lacksBlankLine_of_not_mem
    apply lineFeed_not_mem_exportOf
    intro name exported
    obtain ⟨declaration, last, rfl⟩ := Option.map_eq_some_iff.mp exported
    exact (inLine declaration (List.mem_of_getLast? last)).1

end Printed

namespace Assembly

/-- The program marks nested declarations as it is written out here. -/
theorem nestedDeclaration_eq (convention : Convention) (rendered : String) :
    convention.nestedDeclaration rendered = Printed.nested convention ++ rendered := by
  cases convention with
  | cjs => exact String.empty_append.symm
  | esm => rfl

/-- All declarations but the last are marked as nested. -/
theorem declarations_eq (convention : Convention) (models : List Declaration) :
    declarations convention models =
      models.dropLast.map (fun model => Printed.nested convention ++ model.rendered) ++
        (models.getLast?.map Declaration.rendered).toList := by
  induction models with
  | nil => rfl
  | cons declaration models ih =>
      cases models with
      | nil => rfl
      | cons next more =>
          rw [declarations, ih, nestedDeclaration_eq, List.dropLast_cons_cons, List.map_cons,
            List.getLast?_cons_cons]
          rfl

/-- The parts of an assembly are those that are written out here, behind the ones there were. -/
theorem partsOf_eq (convention : Convention) (header : Option Stamp) (imports : Bool)
    (parts : List String) (registry : Registry) :
    partsOf ⟨convention, header, imports, parts⟩ registry =
      Printed.parts convention header imports registry := by
  have headers : headerText = Printed.headerPart := funext Printed.headerText_eq
  rw [partsOf, Printed.parts, declarations_eq, headers, Printed.importStatement_eq,
    Printed.exportStatement_eq, Registry.root?, ← List.append_assoc]

/-- Registries are emitted one behind the other. -/
theorem foldl_emit (convention : Convention) (header : Option Stamp) (imports : Bool)
    (parts : List String) (registries : List Registry) :
    registries.foldl emit ⟨convention, header, imports, parts⟩ = ⟨convention, header, imports,
      parts ++ registries.flatMap (Printed.parts convention header imports)⟩ := by
  induction registries generalizing parts with
  | nil => simp
  | cons registry registries ih =>
      rw [List.foldl_cons, emit, partsOf_eq, ih, List.flatMap_cons, List.append_assoc]

/-- **Cutting a module.** The text of a module without its final line feed is cut at the separators
into the parts of the registries that were emitted, in their order. -/
theorem cutAt_text (convention : Convention) (header : Option Stamp) (imports : Bool)
    {registries : List Registry} (emitted : registries ≠ [])
    (inLine : ∀ registry ∈ registries, ∀ declaration ∈ registry.models,
      '\n' ∉ declaration.model.toList ∧ '\n' ∉ declaration.rendered.toList) :
    let text := (registries.foldl emit { convention, header, imports }).text.toList
    text.getLast? = some '\n' ∧
      cutAt " \n\n ".toList text.dropLast =
        (registries.flatMap (Printed.parts convention header imports)).map String.toList := by
  intro text
  have spelled : text = List.intercalate separator.toList
      ((registries.flatMap (Printed.parts convention header imports)).map String.toList) ++
        ['\n'] := by
    have folded := foldl_emit convention header imports [] registries
    rw [List.nil_append] at folded
    have whole : text = (Assembly.text ⟨convention, header, imports, _⟩).toList :=
      congrArg (fun assembly => (Assembly.text assembly).toList) folded
    rw [whole, Assembly.text, String.toList_append, String.toList_intercalate]
    rfl
  have lacks : ∀ part ∈ (registries.flatMap (Printed.parts convention header imports)).map
      String.toList, LacksBlankLine part := by
    intro part member
    obtain ⟨text, among, rfl⟩ := List.mem_map.mp member
    obtain ⟨registry, present, among⟩ := List.mem_flatMap.mp among
    exact Printed.lacksBlankLine_parts convention header imports (inLine registry present) text
      among
  have some : (registries.flatMap (Printed.parts convention header imports)).map String.toList
      ≠ [] := by
    obtain ⟨registry, others, rfl⟩ := List.exists_cons_of_ne_nil emitted
    simp [Printed.parts]
  generalize (registries.flatMap (Printed.parts convention header imports)).map String.toList =
    parts at spelled lacks some ⊢
  obtain ⟨part, parts, rfl⟩ := List.exists_cons_of_ne_nil some
  refine ⟨by rw [spelled, List.getLast?_concat], ?_⟩
  rw [spelled, List.dropLast_concat]
  apply cutAt_intercalate (List.cons_ne_nil _ _)
  · exact fun part member => apart_of_lacksBlankLine (lacks part member) (by simp)
  · intro part member text
    apply apart_of_lacksBlankLine (lacks part member)
    rintro next head rfl
    exact absurd (Option.some.inj head) (by decide)

/-- The parts of two registries, the second of which is empty, with a header before each. -/
theorem cutAt_text_twice :
    let registries := [Registry.ofRoot "Order" (.object [("line", .object [])]), .empty]
    registries ≠ [] ∧
      (∀ registry ∈ registries, ∀ declaration ∈ registry.models,
        '\n' ∉ declaration.model.toList ∧ '\n' ∉ declaration.rendered.toList) ∧
      cutAt " \n\n ".toList (registries.foldl emit
          { convention := .esm, header := Stamp.of? 2024 3 9 8 5 0 0 }).text.toList.dropLast =
        ["\n/**\n  * Copyright 2024 jsonmodel-js\n  * Auto-generated: 2024/03/09 08:05:00 \n  *\n" ++
            "  * @author jsonmodel-gen\n  */",
          "export const lineModel = new JsonModel.define(\x7b  \x7d);",
          "const Order = new JsonModel.define(\x7b  line: \x7b type: lineModel \x7d  \x7d);",
          "export default Order;",
          "\n/**\n  * Copyright 2024 jsonmodel-js\n  * Auto-generated: 2024/03/09 08:05:00 \n  *\n" ++
            "  * @author jsonmodel-gen\n  */",
          "export default \x7b\x7d;"].map String.toList := by
  intro registries
  have emitted : registries ≠ [] := List.cons_ne_nil _ _
  have inLine : ∀ registry ∈ registries, ∀ declaration ∈ registry.models,
      '\n' ∉ declaration.model.toList ∧ '\n' ∉ declaration.rendered.toList := by
    decide +kernel
  refine ⟨emitted, inLine, ?_⟩
  rw [(cutAt_text .esm (Stamp.of? 2024 3 9 8 5 0 0) false emitted inLine).2]
  decide +kernel

end Assembly

end ModelScribe

import ModelScribe.Filter
import ModelScribe.Proofs.Json.MergedKeys
import ModelScribe.Settings

/-! # Pointers to the parts of a document

A path of keys and indices is written as a pointer with a slash before each step
(`ModelScribe.JsonPointer.text`). Whatever the keys hold, its steps are read back
from there (`ModelScribe.JsonPointer.steps?_text`). So it selects the part of a
document that the path leads to, and a list of steps that leads nowhere selects
nothing (`ModelScribe.Options.select_pointed`).
-/

namespace ModelScribe

namespace JsonPointer

/-- A text with its tildes escaped and its slashes as they are. -/
def escapeTildes : List Char → List Char
  | [] => []
  | '~' :: rest => '~' :: '0' :: escapeTildes rest
  | character :: rest => character :: escapeTildes rest

/-- A character that is no tilde stands for itself among slashes. -/
theorem unescapeSlashes_cons {character : Char} (plain : character ≠ '~') (rest : List Char) :
    unescapeSlashes (character :: rest) = character :: unescapeSlashes rest := by
  rw [unescapeSlashes]
  rintro _ rfl
  exact absurd rfl plain

/-- A character that is no tilde stands for itself among tildes. -/
theorem unescapeTildes_cons {character : Char} (plain : character ≠ '~') (rest : List Char) :
    unescapeTildes (character :: rest) = character :: unescapeTildes rest := by
  rw [unescapeTildes]
  rintro _ rfl
  exact absurd rfl plain

/-- Without escaped slashes, an escaped step has its tildes escaped. -/
theorem unescapeSlashes_escape (step : List Char) :
    unescapeSlashes (escape step) = escapeTildes step := by
  fun_induction escape step with
  | case1 => rfl
  | case2 rest ih =>
      rw [unescapeSlashes, unescapeSlashes_cons (by decide), ih, escapeTildes]
      simp
  | case3 rest ih =>
      rw [unescapeSlashes, ih, escapeTildes]
      simp
  | case4 character rest notTilde notSlash ih =>
      rw [unescapeSlashes_cons notTilde, ih, escapeTildes]
      exact notTilde

/-- Tildes that have been escaped are read back. -/
theorem unescapeTildes_escapeTildes (step : List Char) :
    unescapeTildes (escapeTildes step) = step := by
  fun_induction escapeTildes step with
  | case1 => rfl
  | case2 rest ih => rw [unescapeTildes, ih]
  | case3 character rest notTilde ih => rw [unescapeTildes_cons notTilde, ih]

theorem unescape_escape (step : List Char) : unescape (escape step) = step := by
  rw [unescape, unescapeSlashes_escape, unescapeTildes_escapeTildes]

/-- There is no slash in an escaped step. -/
theorem slash_not_mem_escape (step : List Char) : '/' ∉ escape step := by
  fun_induction escape step with
  | case1 => exact List.not_mem_nil
  | case2 rest ih => simp [ih]
  | case3 rest ih => simp [ih]
  | case4 character rest notTilde notSlash ih =>
      have plain : character ≠ '/' := notSlash
      simp [ih, plain.symm]

/-- The pointer with these steps. -/
def text (steps : List String) : String :=
  String.join (steps.map fun step => "/" ++ String.ofList (escape step.toList))

/-- The text of a pointer has its escaped steps between slashes. -/
theorem toList_text_cons (step : String) (steps : List String) :
    (text (step :: steps)).toList =
      '/' :: List.intercalate ['/'] ((step :: steps).map fun step => escape step.toList) := by
  induction steps generalizing step with
  | nil => simp [text]
  | cons next steps ih =>
      have unfolded : (text (step :: next :: steps)).toList =
          '/' :: escape step.toList ++ (text (next :: steps)).toList := by
        simp [text]
      rw [unfolded, ih]
      simp [List.intercalate_cons_cons]

/-- **Steps read back.** The steps of a pointer are those that it was written with. -/
theorem steps?_text (steps : List String) : steps? (text steps) = some steps := by
  cases steps with
  | nil => rfl
  | cons step steps =>
      have apart : ∀ part ∈ (step :: steps).map fun step => escape step.toList, '/' ∉ part := by
        intro part member
        obtain ⟨written, _, rfl⟩ := List.mem_map.mp member
        exact slash_not_mem_escape written.toList
      have read : (fun part => String.ofList (unescape part)) ∘ (fun step => escape step.toList) =
          (id : String → String) := by
        funext step
        exact (congrArg String.ofList (unescape_escape step.toList)).trans String.ofList_toList
      rw [steps?, toList_text_cons]
      show some _ = some _
      rw [List.splitOn_intercalate '/' apart (List.cons_ne_nil _ _), List.map_map, read,
        List.map_id]

/-- A decimal digit is that of a number below ten. -/
theorem exists_digitChar {digit : Char} (decimal : digit.isDigit = true) :
    ∃ value < 10, digit = Nat.digitChar value := by
  obtain ⟨least, greatest⟩ := Char.isDigit_iff_toNat.mp decimal
  have low : 48 ≤ digit.toNat := least
  have high : digit.toNat ≤ 57 := greatest
  refine ⟨digit.toNat - 48, by omega, Char.toNat_inj.mp ?_⟩
  rw [Nat.toNat_digitChar_of_lt_ten (by omega)]
  omega

/-- A number above zero starts with another digit than zero. -/
theorem head?_toDigits {value : Nat} (positive : 0 < value) :
    (Nat.toDigits 10 value).head? ≠ some '0' := by
  induction value using Nat.strongRecOn with
  | ind value ih =>
      rw [Nat.toDigits_eq_if (by decide)]
      split
      · intro zero
        have none := Nat.digitChar_eq_zero.mp (Option.some.inj zero)
        omega
      · rw [List.head?_append_of_ne_nil _ Nat.toDigits_ne_nil]
        exact ih (value / 10) (by omega) (by omega)

/-- Digits without a leading zero are those of the number that they denote. -/
theorem toDigits_ofDigitChars {digits : List Char} (some : digits ≠ [])
    (decimal : ∀ digit ∈ digits, digit.isDigit = true) (leading : digits.head? ≠ .some '0') :
    Nat.toDigits 10 (Nat.ofDigitChars 10 digits 0) = digits := by
  induction digits using List.reverseRecOn with
  | nil => exact absurd rfl some
  | append_singleton digits last ih =>
      obtain ⟨value, small, rfl⟩ := exists_digitChar (decimal last (by simp))
      rw [Nat.ofDigitChars_append, Nat.ofDigitChars_cons_digitChar_of_lt_ten small,
        Nat.ofDigitChars_nil]
      rcases eq_or_ne digits [] with rfl | more
      · rw [Nat.ofDigitChars_nil, Nat.mul_zero, Nat.zero_add, Nat.toDigits_of_lt_base small]
        rfl
      · rw [List.head?_append_of_ne_nil _ more] at leading
        have before := ih more (fun digit member => decimal digit (List.mem_append_left _ member))
          leading
        have positive : 0 < Nat.ofDigitChars 10 digits 0 := by
          by_contra zero
          rw [Nat.eq_zero_of_not_pos zero, Nat.toDigits_zero] at before
          exact leading (before ▸ rfl)
        rw [← Nat.toDigits_append_toDigits (by decide) positive small, before,
          Nat.toDigits_of_lt_base small]

/-- A step denotes an index if it is the decimal form of it. -/
theorem index?_eq_some {step : String} {index : Nat} :
    index? step = some index ↔ step = toString index := by
  rw [← String.toList_inj, Nat.toString_eq_repr, Nat.toList_repr]
  unfold index?
  split
  · next empty => simp [empty, Nat.toDigits_ne_nil.symm]
  · next digit rest padded =>
      simp only [reduceCtorEq, false_iff]
      intro written
      rw [padded] at written
      rcases Nat.eq_zero_or_pos index with rfl | positive
      · simp [Nat.toDigits_zero] at written
      · exact head?_toDigits positive (written ▸ rfl)
  · next some unpadded =>
      rw [Option.ite_none_right_eq_some, List.all_eq_true]
      constructor
      · rintro ⟨decimal, denotes⟩
        obtain rfl := Option.some.inj denotes
        by_cases zero : step.toList.head? = .some '0'
        · obtain ⟨rest, whole⟩ := List.head?_eq_some_iff.mp zero
          cases rest with
          | nil => rw [whole]; rfl
          | cons digit rest => exact absurd whole (unpadded digit rest)
        · exact (toDigits_ofDigitChars some decimal zero).symm
      · intro written
        rw [written]
        exact ⟨fun digit member => Nat.isDigit_of_mem_toDigits (by decide) (by decide) member,
          congrArg Option.some Nat.ofDigitChars_ten_toDigits⟩

/-- A step of a path into a value: the key of a member, or the index of an item. -/
inductive Step
  | key (name : String)
  | index (place : Nat)
  deriving DecidableEq

/-- The text of a step. -/
def Step.text : Step → String
  | key name => name
  | index place => toString place

end JsonPointer

namespace Json

/-- The part of a value that a path leads to. -/
inductive LeadsTo : List JsonPointer.Step → Json → Json → Prop
  | here (value : Json) : LeadsTo [] value value
  | member {key : String} {members : List (String × Json)} {value part : Json}
      {path : List JsonPointer.Step} (held : (key, value) ∈ members)
      (leads : LeadsTo path value part) : LeadsTo (.key key :: path) (object members) part
  | item {index : Nat} {items : List Json} {value part : Json} {path : List JsonPointer.Step}
      (held : items[index]? = some value) (leads : LeadsTo path value part) :
      LeadsTo (.index index :: path) (array items) part

/-- A step has nowhere to lead: an object does not have that key, an array does not have an item of
that index, and other values have nothing inside. -/
def HasNothingAt (step : String) : Json → Prop
  | object members => step ∉ members.map Prod.fst
  | array items => ∀ index < items.length, step ≠ toString index
  | _ => True

variable {value part : Json} {path : List JsonPointer.Step}

/-- An index leads to the item there. -/
theorem step?_item {index : Nat} {items : List Json} :
    (array items).step? (toString index) = items[index]? := by
  have denotes : JsonPointer.index? (toString index) = some index :=
    JsonPointer.index?_eq_some.mpr rfl
  rw [step?, denotes]
  rfl

/-- A step that has nowhere to lead leads nowhere. -/
theorem HasNothingAt.step? {step : String} (nothing : value.HasNothingAt step) :
    value.step? step = none := by
  cases value with
  | object members => exact member?_eq_none.mpr nothing
  | array items =>
      refine Option.bind_eq_none_iff.mpr fun index denotes => List.getElem?_eq_none ?_
      by_contra inside
      exact nothing index (Nat.lt_of_not_le inside) (JsonPointer.index?_eq_some.mp denotes)
  | _ => rfl

/-- The steps of a path are followed to the part that it leads to. -/
theorem LeadsTo.follow? (leads : LeadsTo path value part) (distinct : value.HasDistinctKeys)
    (more : List String) :
    value.follow? (path.map JsonPointer.Step.text ++ more) = part.follow? more := by
  induction leads with
  | here value => rfl
  | member held leads ih =>
      cases distinct with
      | object distinct inside =>
          have found := (member?_eq_some distinct).mpr held
          rw [List.map_cons, List.cons_append, Json.follow?, Json.step?, JsonPointer.Step.text,
            found]
          exact ih (inside _ held)
  | item held leads ih =>
      cases distinct with
      | array inside =>
          rw [List.map_cons, List.cons_append, Json.follow?, JsonPointer.Step.text, step?_item,
            held]
          exact ih (inside _ (List.mem_of_getElem? held))

end Json

namespace Options

variable {options : Options} {source : String} {document : Json} {steps : List String}

/-- Without a filter, what is pointed to is selected. -/
theorem select_unfiltered [FilterLibrary] (parsed : Json.parse source = .ok document)
    (unfiltered : options.filter = none) : options.select source = options.pointed document := by
  rw [select, parsed]
  show options.pointed document >>= options.filtered = _
  cases options.pointed document with
  | error failure => rfl
  | ok part =>
      show options.filtered part = _
      rw [filtered, unfiltered]

/-- A written pointer selects what its steps lead to. -/
theorem pointed_text (points : options.pointer = some (JsonPointer.text steps)) :
    options.pointed document =
      (document.follow? steps).elim (.error (.pointsNowhere (JsonPointer.text steps))) .ok := by
  have followed : document.pointed? (JsonPointer.text steps) = document.follow? steps := by
    rw [Json.pointed?, JsonPointer.steps?_text, Option.bind_some]
  rw [pointed, points]
  dsimp only
  rw [followed]
  cases document.follow? steps <;> rfl

/-- **Pointer selection.** A document is narrowed to the part that the written path leads to, with
the module that this part has by itself. Where a step has nowhere to lead, all that comes is a
complaint about the pointer. -/
theorem select_pointed [FilterLibrary] (parsed : Json.parse source = .ok document)
    (points : options.pointer = some (JsonPointer.text steps))
    (unfiltered : options.filter = none) :
    (∀ path part, steps = path.map JsonPointer.Step.text → document.LeadsTo path part →
      options.select source = .ok part ∧ ∀ (settings : Settings) (stamp : Stamp),
        options.select source >>= settings.render stamp = settings.render stamp part) ∧
    ∀ path met step more, steps = path.map JsonPointer.Step.text ++ step :: more →
      document.LeadsTo path met → met.HasNothingAt step →
        options.select source = .error (.pointsNowhere (JsonPointer.text steps)) := by
  have distinct := Json.hasDistinctKeys_of_parse parsed
  have selects := (select_unfiltered parsed unfiltered).trans (pointed_text points)
  constructor
  · rintro path part rfl leads
    have found := leads.follow? distinct []
    rw [List.append_nil, Json.follow?] at found
    rw [found] at selects
    refine ⟨selects, fun settings stamp => ?_⟩
    rw [selects]
    rfl
  · rintro path met step more rfl leads nothing
    rw [leads.follow? distinct, Json.follow?, nothing.step?] at selects
    exact selects

/-- A key with both escaped characters, an index and an empty key; and an index with a leading
zero. -/
theorem select_pointed_escaped :
    let source := "\x7b\"a/b~\": [null, \x7b\"\": \x7b\"on\": true\x7d\x7d]\x7d"
    let options : Options := { pointer := some "/a~1b~0/1/" }
    let astray : Options := { pointer := some "/a~1b~0/01" }
    options.select source = .ok (.object [("on", .bool true)]) ∧
      astray.select source = .error (.pointsNowhere "/a~1b~0/01") := by
  intro source options astray
  let inner := Json.object [("on", .bool true)]
  let items := [Json.null, .object [("", inner)]]
  let document := Json.object [("a/b~", .array items)]
  have parsed : Json.parse source = .ok document := by decide +kernel
  have toItems : document.LeadsTo [.key "a/b~"] (.array items) :=
    .member (List.mem_cons_self ..) (.here _)
  have leads : document.LeadsTo [.key "a/b~", .index 1, .key ""] inner :=
    .member (List.mem_cons_self ..) (.item rfl (.member (List.mem_cons_self ..) (.here _)))
  have nothing : (Json.array items).HasNothingAt "01" :=
    show ∀ index < 2, "01" ≠ toString index by decide
  have points : options.pointer = some (JsonPointer.text ["a/b~", "1", ""]) := by decide +kernel
  have pointsAstray : astray.pointer = some (JsonPointer.text ["a/b~", "01"]) := by
    decide +kernel
  exact ⟨((select_pointed parsed points rfl).1 _ _ rfl leads).1,
    (select_pointed parsed pointsAstray rfl).2 _ _ _ [] rfl toItems nothing⟩

end Options

end ModelScribe

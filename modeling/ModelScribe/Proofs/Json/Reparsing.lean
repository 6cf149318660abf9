import ModelScribe.Proofs.Json.Printing

/-! # Printed documents are parsed to themselves

A parsed document has no object with a repeated key and nests no deeper than the reader allows.
With integers for its numbers it is printable (`ModelScribe.Json.Printable.of_parse`), and so is
each part of it that a pointer selects (`ModelScribe.Json.Printable.of_pointed?`). The text that
filters print of such a value is parsed to this very value
(`ModelScribe.Json.Printable.parse_text`).
-/

namespace ModelScribe.Json

open ModelScribe.Filter

variable {limit : Nat} {value part : Json} {cursor behind : Cursor} {first : Bool}

/-- Each part of a list stands somewhere in it. -/
theorem Listed.exists_between {Part : Type} {Standing : Part → Cursor → Cursor → Prop}
    {mark : Char} {parts : List Part} (stands : Listed mark Standing first parts cursor behind) :
    ∀ part ∈ parts, ∃ before after, Standing part before after := by
  induction parts generalizing first cursor with
  | nil => exact fun part among => absurd among List.not_mem_nil
  | cons part parts ih =>
      obtain ⟨start, -, finish, here, others⟩ := stands
      exact List.forall_mem_cons.mpr ⟨⟨start, finish, here⟩, ih others⟩

/-- What stands in a text nests no deeper than it may there. -/
theorem Stands.nestsWithin (stands : Stands limit value cursor behind) :
    NestsWithin limit value := by
  induction limit generalizing value cursor behind with
  | zero =>
      cases value with
      | null => exact .null 0
      | bool value => exact .bool 0 value
      | number value => exact .number 0 value
      | string value => exact .string 0 value
      | array | object =>
          rw [Stands] at stands
          exact stands.elim
  | succ limit ih =>
      cases value with
      | null => exact .null _
      | bool value => exact .bool _ value
      | number value => exact .number _ value
      | string value => exact .string _ value
      | array items =>
          rw [Stands, items_eq_listed] at stands
          obtain ⟨_, -, inside⟩ := stands
          refine .array fun item among => ?_
          obtain ⟨_, _, here⟩ := inside.exists_between item among
          exact ih here
      | object members =>
          rw [Stands, members_eq_listed] at stands
          obtain ⟨_, -, inside⟩ := stands
          refine .object fun member among => ?_
          obtain ⟨_, _, _, -, _, -, _, -, here⟩ := inside.exists_between member among
          exact ih here

/-- A value that nests within a limit nests within the next. -/
theorem NestsWithin.succ (nests : NestsWithin limit value) : NestsWithin (limit + 1) value := by
  induction nests with
  | null limit => exact .null _
  | bool limit value => exact .bool _ value
  | number limit value => exact .number _ value
  | string limit value => exact .string _ value
  | array inside ih => exact .array ih
  | object inside ih => exact .object ih

/-- Items are merged one by one. -/
theorem mergedItems_eq (items : List Json) : mergedItems items = items.map merged := by
  induction items with
  | nil => rfl
  | cons item items ih => rw [mergedItems, List.map_cons, ih]

/-- The values of members are merged one by one. -/
theorem mergedMembers_eq (members : List (String × Json)) :
    mergedMembers members = members.map fun member => (member.1, member.2.merged) := by
  induction members with
  | nil => rfl
  | cons member members ih => rw [mergedMembers, List.map_cons, ih]

/-- Merging only takes members away. -/
theorem NestsWithin.merged (nests : NestsWithin limit value) : NestsWithin limit value.merged := by
  induction nests with
  | null limit => exact .null limit
  | bool limit value => exact .bool limit value
  | number limit value => exact .number limit value
  | string limit value => exact .string limit value
  | @array limit items inside ih =>
      rw [Json.merged, mergedItems_eq]
      refine .array fun item among => ?_
      obtain ⟨written, held, rfl⟩ := List.mem_map.mp among
      exact ih written held
  | @object limit members inside ih =>
      rw [Json.merged, mergedMembers_eq]
      refine .object fun member among => ?_
      obtain ⟨written, held, rfl⟩ := List.mem_map.mp ((mergeMembers_spec _).2 among)
      exact ih written held

/-- A new member is inserted behind the others. -/
theorem insertMember_of_notMem {key : String} {members : List (String × Json)}
    (absent : key ∉ members.map Prod.fst) :
    insertMember key value members = members ++ [(key, value)] := by
  induction members with
  | nil => rfl
  | cons member members ih =>
      obtain ⟨apart, others⟩ := not_or.mp (mt List.mem_cons.mpr absent)
      rw [insertMember, if_neg (Ne.symm apart), ih others, List.cons_append]

/-- Members with distinct keys stay as they are, and in their order. -/
theorem mergeMembers_of_nodup {members : List (String × Json)}
    (distinct : (members.map Prod.fst).Nodup) : mergeMembers members = members := by
  induction members using List.reverseRecOn with
  | nil => rfl
  | append_singleton members member ih =>
      rw [List.map_append, List.nodup_append] at distinct
      obtain ⟨earlier, -, apart⟩ := distinct
      have absent : member.1 ∉ members.map Prod.fst :=
        fun among => apart _ among _ (List.mem_singleton_self _) rfl
      rw [mergeMembers, List.foldl_concat, ← mergeMembers, ih earlier,
        insertMember_of_notMem absent]

/-- A value without repeated keys has nothing to merge. -/
theorem HasDistinctKeys.merged_eq (distinct : value.HasDistinctKeys) : value.merged = value := by
  induction distinct with
  | null => rfl
  | bool value => rfl
  | number value => rfl
  | string value => rfl
  | array inside ih =>
      rw [merged, mergedItems_eq, List.map_congr_left ih, List.map_id']
  | @object members distinct inside ih =>
      have same : ∀ member ∈ members, (member.1, member.2.merged) = member :=
        fun member among => Prod.ext rfl (ih member among)
      rw [merged, mergedMembers_eq, List.map_congr_left same, List.map_id',
        mergeMembers_of_nodup distinct]

/-- A value whose printed form is parsed to the value itself. -/
structure Printable (value : Json) : Prop where
  distinct : value.HasDistinctKeys
  nests : NestsWithin nestingLimit value
  integral : value.IsIntegral

namespace Printable

/-- A parsed document is printable if its numbers are integers. -/
theorem of_parse {source : String} (parsed : parse source = .ok value)
    (integral : value.IsIntegral) : Printable value where
  distinct := hasDistinctKeys_of_parse parsed
  nests := by
    cases reads : parseWritten source with
    | error error =>
        rw [parse, reads] at parsed
        cases parsed
    | ok written =>
        rw [parse, reads] at parsed
        obtain rfl := Except.ok.inj parsed
        obtain ⟨behind, stands, -⟩ := parseWritten_eq_ok.mp reads
        exact stands.nestsWithin.merged
  integral := integral

/-- **Parsing the printed form.** A printable value is what its text is parsed to. -/
theorem parse_text (printable : Printable value) : parse (Value.ofJson value).text = .ok value := by
  have stands : (Cursor.ofText (Value.ofJson value).text).rest =
      (Value.ofJson value).characters ++ [] :=
    String.toList_ofList.trans (List.append_nil _).symm
  obtain ⟨behind, left, found⟩ :=
    printable.nests.spells printable.integral _ [] stands fun _ none => by cases none
  have reads : parseWritten (Value.ofJson value).text = .ok value :=
    parseWritten_eq_ok.mpr ⟨behind, found, left ▸ fun _ none => absurd none List.not_mem_nil⟩
  rw [parse, reads]
  exact congrArg Except.ok printable.distinct.merged_eq

/-- The items of a printable array are printable. -/
theorem of_mem_items {items : List Json} :
    Printable (array items) → part ∈ items → Printable part
  | ⟨.array distinct, .array nests, .array integral⟩, among =>
      ⟨distinct part among, (nests part among).succ, integral part among⟩

/-- The values of a printable object are printable. -/
theorem of_mem_members {members : List (String × Json)} {key : String} :
    Printable (object members) → (key, part) ∈ members → Printable part
  | ⟨.object _ distinct, .object nests, .object integral⟩, among =>
      ⟨distinct _ among, (nests _ among).succ, integral _ among⟩

/-- A step into a printable value leads to one. -/
theorem of_step? {step : String} (printable : Printable value)
    (found : value.step? step = some part) : Printable part := by
  cases value with
  | array items =>
      obtain ⟨index, -, held⟩ := Option.bind_eq_some_iff.mp found
      exact printable.of_mem_items (List.mem_of_getElem? held)
  | object members =>
      cases printable.distinct with
      | object distinct inside =>
          exact printable.of_mem_members ((member?_eq_some distinct).mp found)
  | _ => cases found

/-- Steps into a printable value lead to one. -/
theorem of_follow? {steps : List String} (printable : Printable value)
    (found : value.follow? steps = some part) : Printable part := by
  induction steps generalizing value with
  | nil => exact Option.some.inj found ▸ printable
  | cons step steps ih =>
      obtain ⟨middle, next, found⟩ := Option.bind_eq_some_iff.mp found
      exact ih (printable.of_step? next) found

/-- What a pointer selects of a printable value is printable. -/
theorem of_pointed? {pointer : String} (printable : Printable value)
    (found : value.pointed? pointer = some part) : Printable part := by
  obtain ⟨steps, -, found⟩ := Option.bind_eq_some_iff.mp found
  exact printable.of_follow? found

end Printable

end ModelScribe.Json

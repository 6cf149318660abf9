import Mathlib.Data.List.Induction
import Mathlib.Data.List.Nodup
import ModelScribe.Json.Reader

/-! # Keys of parsed objects

A text may repeat a key of an object, but the document it is parsed to has each key once
(`ModelScribe.Json.hasDistinctKeys_of_parse`), so that a key of an object leads to one value only
(`ModelScribe.Json.member?_eq_some`).
-/

namespace ModelScribe.Json

/-- No object in a value has a key twice. -/
inductive HasDistinctKeys : Json → Prop
  | null : HasDistinctKeys null
  | bool (value : Bool) : HasDistinctKeys (bool value)
  | number (value : JsonNumber) : HasDistinctKeys (number value)
  | string (value : String) : HasDistinctKeys (string value)
  | array {items : List Json} (inside : ∀ item ∈ items, HasDistinctKeys item) :
      HasDistinctKeys (array items)
  | object {members : List (String × Json)} (distinct : (members.map Prod.fst).Nodup)
      (inside : ∀ member ∈ members, HasDistinctKeys member.2) : HasDistinctKeys (object members)

variable {key : String} {value : Json} {members : List (String × Json)}

theorem mem_insertMember {member : String × Json}
    (among : member ∈ insertMember key value members) :
    member = (key, value) ∨ member ∈ members := by
  induction members with
  | nil => exact .inl (List.mem_singleton.mp among)
  | cons first rest ih =>
      rw [insertMember] at among
      split at among
      · rcases List.mem_cons.mp among with here | later
        · exact .inl here
        · exact .inr (List.mem_cons_of_mem _ later)
      · rcases List.mem_cons.mp among with here | later
        · exact .inr (here ▸ List.mem_cons_self ..)
        · exact (ih later).imp_right (List.mem_cons_of_mem _)

/-- Inserting a member keeps the keys distinct. -/
theorem nodup_insertMember (distinct : (members.map Prod.fst).Nodup) :
    ((insertMember key value members).map Prod.fst).Nodup := by
  induction members with
  | nil => exact List.nodup_singleton _
  | cons first rest ih =>
      obtain ⟨absent, others⟩ := List.nodup_cons.mp distinct
      rw [insertMember]
      split
      · next same => exact same ▸ distinct
      · next apart =>
          refine List.nodup_cons.mpr ⟨fun among => ?_, ih others⟩
          obtain ⟨member, inserted, same⟩ := List.mem_map.mp among
          rcases mem_insertMember inserted with rfl | earlier
          · exact apart same.symm
          · exact absent (same ▸ List.mem_map_of_mem earlier)

/-- Merged members have distinct keys, and each of them was written so. -/
theorem mergeMembers_spec (members : List (String × Json)) :
    ((mergeMembers members).map Prod.fst).Nodup ∧ mergeMembers members ⊆ members := by
  induction members using List.reverseRecOn with
  | nil => exact ⟨List.nodup_nil, List.Subset.refl _⟩
  | append_singleton members member ih =>
      have merged : mergeMembers (members ++ [member]) =
          insertMember member.1 member.2 (mergeMembers members) := by
        rw [mergeMembers, List.foldl_concat]
        rfl
      rw [merged]
      refine ⟨nodup_insertMember ih.1, fun other among => ?_⟩
      rcases mem_insertMember among with rfl | earlier
      · exact List.mem_append_right _ (List.mem_singleton_self _)
      · exact List.mem_append_left _ (ih.2 earlier)

mutual

/-- Merging leaves no key twice. -/
theorem hasDistinctKeys_merged : (value : Json) → HasDistinctKeys value.merged
  | .array items => .array (hasDistinctKeys_mergedItems items)
  | .object members =>
      have merged := mergeMembers_spec (mergedMembers members)
      .object merged.1 fun member among =>
        hasDistinctKeys_mergedMembers members member (merged.2 among)
  | .null => .null
  | .bool value => .bool value
  | .number value => .number value
  | .string value => .string value

theorem hasDistinctKeys_mergedItems : (items : List Json) →
    ∀ item ∈ mergedItems items, HasDistinctKeys item
  | [], _, among => by cases among
  | first :: rest, item, among => by
      rcases List.mem_cons.mp among with rfl | later
      · exact hasDistinctKeys_merged first
      · exact hasDistinctKeys_mergedItems rest item later

theorem hasDistinctKeys_mergedMembers : (members : List (String × Json)) →
    ∀ member ∈ mergedMembers members, HasDistinctKeys member.2
  | [], _, among => by cases among
  | (key, value) :: rest, member, among => by
      rcases List.mem_cons.mp among with rfl | later
      · exact hasDistinctKeys_merged value
      · exact hasDistinctKeys_mergedMembers rest member later

end

/-- **Keys of a document.** No object of a parsed document has a key twice. -/
theorem hasDistinctKeys_of_parse {text : String} {document : Json}
    (parsed : parse text = .ok document) : HasDistinctKeys document := by
  rw [parse] at parsed
  cases written : parseWritten text with
  | error error => rw [written] at parsed; cases parsed
  | ok value =>
      rw [written] at parsed
      obtain rfl := Except.ok.inj parsed
      exact hasDistinctKeys_merged value

/-- A key leads to the value of its only member. -/
theorem member?_eq_some (distinct : (members.map Prod.fst).Nodup) :
    member? key members = some value ↔ (key, value) ∈ members := by
  induction members with
  | nil => simp [member?]
  | cons first rest ih =>
      obtain ⟨own, held⟩ := first
      obtain ⟨absent, others⟩ := List.nodup_cons.mp distinct
      have behind : (key, value) ∈ rest → key ≠ own := by
        rintro among rfl
        exact absent (List.mem_map.mpr ⟨_, among, rfl⟩)
      rw [member?, List.lookup_cons]
      by_cases same : key = own
      · subst same
        simp only [BEq.rfl, Option.some.injEq, List.mem_cons, Prod.mk.injEq, true_and]
        constructor
        · exact fun equal => .inl equal.symm
        · rintro (equal | among)
          · exact equal.symm
          · exact absurd rfl (behind among)
      · rw [beq_false_of_ne same]
        simp only [List.mem_cons, Prod.mk.injEq, same, false_and, false_or]
        exact ih others

theorem member?_eq_none : member? key members = none ↔ key ∉ members.map Prod.fst := by
  rw [member?, List.lookup_eq_none_iff, List.mem_map]
  constructor
  · rintro apart ⟨member, among, rfl⟩
    exact bne_iff_ne.mp (apart member among) rfl
  · intro absent member among
    exact bne_iff_ne.mpr fun same => absent ⟨member, among, same.symm⟩

end ModelScribe.Json

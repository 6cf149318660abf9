import ModelScribe.Decode.Record
import ModelScribe.Proofs.Decode.Meaning

/-! # What the decoder of a record makes of values

A closed record is filled with the members of an object, in the order in which they are
written, each of which is a field that has not come before
(`ModelScribe.RecordShape.fillMembers`), or with the items of a list, one for each field
(`ModelScribe.RecordShape.fillItems`). Where the fields mean functions of values, so does
the record (`ModelScribe.Decoder.record_means`).
-/

namespace ModelScribe

variable {ρ α : Type}

namespace RecordShape

variable (fill : String → ρ → Json → Option ρ)

/-- The record with the values of members filled in behind the keys that have come; each key must be
one of the names and must not have come before. -/
def fillMembers (names : List String) : (seen : List String) → ρ → List (String × Json) → Option ρ
  | _, record, [] => some record
  | seen, record, (key, value) :: members =>
      if key ∈ names ∧ key ∉ seen then
        (fill key record value).bind fun record => fillMembers names (key :: seen) record members
      else none

/-- The record with the values of members filled in, one after the other. -/
def fillAll (record : ρ) (members : List (String × Json)) : Option ρ :=
  members.foldlM (fun record member => fill member.1 record member.2) record

/-- The record with a value filled in for each of the names, in order. -/
def fillItems : (names : List String) → ρ → List Json → Option ρ
  | [], record, [] => some record
  | name :: names, record, item :: items =>
      (fill name record item).bind fun record => fillItems names record items
  | _, _, _ => none

/-- The record that a value stands for. -/
def meaning (shape : RecordShape ρ α) : Json → Option α
  | .object members =>
      (fillMembers fill shape.names [] shape.start members).bind fun record =>
        (shape.finish record).toOption
  | .array items =>
      (fillItems fill shape.names shape.start items).bind fun record =>
        (shape.finish record).toOption
  | _ => none

variable {fill} {names seen : List String} {record result : ρ} {members : List (String × Json)}

/-- The first member is filled in first. -/
theorem fillAll_cons_eq_some {member : String × Json} :
    fillAll fill record (member :: members) = some result ↔
      ∃ between, fill member.1 record member.2 = some between ∧
        fillAll fill between members = some result :=
  Option.bind_eq_some_iff

/-- Members fill in a record if their keys are distinct names that have not come before and each of
their values can be filled in. -/
theorem fillMembers_eq_some :
    fillMembers fill names seen record members = some result ↔
      ((members.map Prod.fst).Nodup ∧ ∀ member ∈ members, member.1 ∈ names ∧ member.1 ∉ seen) ∧
        fillAll fill record members = some result := by
  induction members generalizing seen record with
  | nil => simp [fillMembers, fillAll]
  | cons member members ih =>
      obtain ⟨key, value⟩ := member
      rw [fillMembers, fillAll_cons_eq_some, List.map_cons, List.nodup_cons, List.forall_mem_cons]
      constructor
      · intro filled
        split at filled
        · next fresh =>
            obtain ⟨between, here, others⟩ := Option.bind_eq_some_iff.mp filled
            obtain ⟨⟨distinct, unseen⟩, others⟩ := ih.mp others
            refine ⟨⟨⟨fun again => ?_, distinct⟩, fresh, fun member among => ?_⟩, ?_⟩
            · obtain ⟨member, among, same⟩ := List.mem_map.mp again
              exact (unseen member among).2 (same ▸ List.mem_cons_self)
            · obtain ⟨known, new⟩ := unseen member among
              exact ⟨known, fun before => new (List.mem_cons_of_mem _ before)⟩
            · exact ⟨between, here, others⟩
        · cases filled
      · rintro ⟨⟨⟨new, distinct⟩, fresh, unseen⟩, between, here, others⟩
        rw [if_pos fresh, Option.bind_eq_some_iff]
        refine ⟨between, here, ih.mpr ⟨⟨distinct, fun member among => ?_⟩, others⟩⟩
        obtain ⟨known, before⟩ := unseen member among
        refine ⟨known, fun again => ?_⟩
        rcases List.mem_cons.mp again with same | earlier
        · exact new (List.mem_map.mpr ⟨member, among, same⟩)
        · exact before earlier

variable (fill)

/-- The fields of a closed record mean functions of values. -/
structure Fills (shape : RecordShape ρ α) (limit : Nat) : Prop where
  closed : shape.closed = true
  slots : ∀ slot ∈ shape.slots, ∀ record,
    Decoder.Means limit (slot.fill record) (fill slot.name record)

end RecordShape

namespace Decoder

open Json RecordShape

variable {shape : RecordShape ρ α} {fill : String → ρ → Json → Option ρ} {limit fuel : Nat}
  {seen : List String} {key : String} {record result : ρ} {cursor behind : Cursor}

theorem fillField_eq_ok (fills : shape.Fills fill limit) :
    fillField shape seen key record cursor = .ok (result, behind) ↔
      (key ∈ shape.names ∧ key ∉ seen) ∧ ∃ json,
        Relation.Comp (Mark ':') (Stands limit json) cursor behind ∧
          fill key record json = some result := by
  rw [fillField]
  cases found : shape.slots.find? (·.name = key) with
  | none =>
      have unknown : key ∉ shape.names := fun among => by
        obtain ⟨slot, field, named⟩ := List.mem_map.mp among
        simpa [named] using List.find?_eq_none.mp found slot field
      simp [fills.closed, unknown]
  | some slot =>
      have field : slot ∈ shape.slots := List.mem_of_find?_eq_some found
      obtain rfl : slot.name = key := by simpa using List.find?_some found
      have named : slot.name ∈ shape.names := List.mem_map_of_mem field
      have means : Means limit (slot.fill record) (fill slot.name record) :=
        fills.slots slot field record
      by_cases again : slot.name ∈ seen
      · simp [again]
      · simp only [again, named, if_false, not_false_eq_true, and_self, true_and]
        constructor
        · intro succeeds
          obtain ⟨middle, colon, succeeds⟩ := bind_eq_ok.mp succeeds
          obtain ⟨json, stands, filled⟩ := means.mp (within_eq_ok.mp succeeds)
          exact ⟨json, ⟨middle, readColon_eq_ok.mp (lift_eq_ok.mp colon), stands⟩, filled⟩
        · rintro ⟨json, ⟨middle, colon, stands⟩, filled⟩
          refine bind_eq_ok.mpr ⟨middle, lift_eq_ok.mpr (readColon_eq_ok.mpr colon), ?_⟩
          exact within_eq_ok.mpr (means.mpr ⟨json, stands, filled⟩)

/-- Reading with fuel fills in the members of an object that has fewer of them. -/
theorem recordMembers_eq_ok (fills : shape.Fills fill limit) :
    recordMembers shape fuel seen record cursor = .ok (result, behind) ↔
      ∃ members, members.length < fuel ∧ Members (Stands limit) seen.isEmpty members cursor behind ∧
        fillMembers fill shape.names seen record members = some result := by
  induction fuel generalizing seen record cursor with
  | zero => simp [recordMembers]
  | succ fuel ih =>
      rw [recordMembers]
      constructor
      · intro succeeds
        obtain ⟨member, next, succeeds⟩ := bind_eq_ok.mp succeeds
        have next := lift_eq_ok.mp (within_eq_ok.mp next)
        cases member with
        | none =>
            obtain ⟨rfl, rfl⟩ := Prod.mk.inj (Except.ok.inj succeeds)
            exact ⟨[], Nat.succ_pos _, nextKey_eq_ok_none.mp next, rfl⟩
        | some quoted =>
            obtain ⟨place, comma, quote⟩ := nextKey_eq_ok_some.mp next
            obtain ⟨⟨key, afterKey⟩, text, succeeds⟩ := bind_eq_ok.mp succeeds
            obtain ⟨⟨filled, middle⟩, fillsKey, succeeds⟩ := bind_eq_ok.mp succeeds
            obtain ⟨fresh, json, here, filled⟩ := (fillField_eq_ok fills).mp fillsKey
            obtain ⟨members, few, rest, others⟩ := ih.mp succeeds
            refine ⟨(key, json) :: members, by simpa using few, ?_, ?_⟩
            · exact ⟨place, comma, middle, ⟨quoted, quote, afterKey,
                lift_eq_ok.mp (within_eq_ok.mp text), here⟩, rest⟩
            · rw [fillMembers, if_pos fresh, filled, Option.bind_some]
              exact others
      · rintro ⟨members, few, stands, filled⟩
        cases members with
        | nil =>
            obtain ⟨-, rfl⟩ := id stands
            obtain rfl := Option.some.inj filled
            refine bind_eq_ok.mpr ⟨none, ?_, rfl⟩
            exact within_eq_ok.mpr (lift_eq_ok.mpr (nextKey_eq_ok_none.mpr stands))
        | cons member members =>
            obtain ⟨key, value⟩ := member
            obtain ⟨place, comma, middle, ⟨quoted, quote, afterKey, text, here⟩, rest⟩ := stands
            rw [fillMembers] at filled
            split at filled
            · next fresh =>
                obtain ⟨between, filledKey, others⟩ := Option.bind_eq_some_iff.mp filled
                have next : nextKey seen.isEmpty cursor = .ok (some quoted) :=
                  nextKey_eq_ok_some.mpr ⟨place, comma, quote⟩
                refine bind_eq_ok.mpr ⟨_, within_eq_ok.mpr (lift_eq_ok.mpr next), ?_⟩
                refine bind_eq_ok.mpr ⟨_, within_eq_ok.mpr (lift_eq_ok.mpr text), ?_⟩
                have fillsKey := (fillField_eq_ok fills).mpr ⟨fresh, value, here, filledKey⟩
                refine bind_eq_ok.mpr ⟨_, fillsKey, ?_⟩
                exact ih.mpr ⟨members, by simpa using few, rest, others⟩
            · cases filled

theorem closeItems_eq_ok : closeItems cursor = .ok behind ↔ Mark ']' cursor behind := by
  rw [closeItems]
  split
  · next ends => simp [Mark, not_letter ends]
  · next rest stands => simp [Mark, letter_iff stands]
  · next rest stands =>
      have comma : ¬ Mark ']' cursor behind := by simp [Mark, letter_iff stands]
      refine iff_of_false (fun succeeds => ?_) comma
      dsimp only at succeeds
      split at succeeds <;> simp at succeeds
  · next ends others _ => exact iff_of_false (by simp) fun mark => others _ mark.1

/-- Reading the items of a list and its bracket fills in one item for each field. -/
theorem recordItems_eq_ok {index : Nat} {slots : List (Slot ρ)}
    (means : ∀ slot ∈ slots, ∀ record, Means limit (slot.fill record) (fill slot.name record)) :
    (∃ middle, recordItems shape index slots record cursor = .ok (result, middle) ∧
        closeItems middle = .ok behind) ↔
      ∃ items, Items (Stands limit) (index = 0) items cursor behind ∧
        fillItems fill (slots.map Slot.name) record items = some result := by
  induction slots generalizing index record cursor with
  | nil =>
      constructor
      · rintro ⟨middle, succeeds, close⟩
        obtain ⟨rfl, rfl⟩ := Prod.mk.inj (Except.ok.inj succeeds)
        exact ⟨[], closeItems_eq_ok.mp close, rfl⟩
      · rintro ⟨items, stands, filled⟩
        cases items with
        | nil =>
            obtain rfl := Option.some.inj filled
            exact ⟨cursor, rfl, closeItems_eq_ok.mpr stands⟩
        | cons item items => cases filled
  | cons slot slots ih =>
      obtain ⟨here, others⟩ := List.forall_mem_cons.mp means
      constructor
      · rintro ⟨middle, succeeds, close⟩
        rw [recordItems] at succeeds
        obtain ⟨item, next, succeeds⟩ := bind_eq_ok.mp succeeds
        cases item with
        | none => simp at succeeds
        | some start =>
            obtain ⟨⟨between, afterItem⟩, fillsSlot, succeeds⟩ := bind_eq_ok.mp succeeds
            obtain ⟨item, stands, filled⟩ := (here record).mp (within_eq_ok.mp fillsSlot)
            obtain ⟨place, comma, stands⟩ := exists_nextItem.mp ⟨start, lift_eq_ok.mp next, stands⟩
            obtain ⟨items, rest, filledOthers⟩ := (ih others).mp ⟨middle, succeeds, close⟩
            refine ⟨item :: items, ⟨place, comma, afterItem, stands, rest⟩, ?_⟩
            rw [List.map_cons, fillItems, filled, Option.bind_some]
            exact filledOthers
      · rintro ⟨items, stands, filled⟩
        cases items with
        | nil => cases filled
        | cons item items =>
            obtain ⟨place, comma, afterItem, stands, rest⟩ := stands
            rw [List.map_cons, fillItems] at filled
            obtain ⟨between, filledSlot, filledOthers⟩ := Option.bind_eq_some_iff.mp filled
            obtain ⟨start, next, stands⟩ := exists_nextItem.mpr ⟨place, comma, stands⟩
            have reads : ∃ middle, recordItems shape (index + 1) slots between afterItem =
                .ok (result, middle) ∧ closeItems middle = .ok behind :=
              (ih others).mpr ⟨items, rest, filledOthers⟩
            obtain ⟨middle, succeeds, close⟩ := reads
            refine ⟨middle, ?_, close⟩
            rw [recordItems]
            refine bind_eq_ok.mpr ⟨some start, lift_eq_ok.mpr next, ?_⟩
            have fillsSlot := (here record).mpr ⟨item, stands, filledSlot⟩
            exact bind_eq_ok.mpr ⟨_, within_eq_ok.mpr fillsSlot, succeeds⟩

theorem finishRecord_eq_ok {value : α} :
    finishRecord shape record cursor = .ok (value, behind) ↔
      (shape.finish record).toOption = some value ∧ cursor = behind := by
  rw [finishRecord]
  cases shape.finish record with
  | ok found => simp [Except.toOption]
  | error name => simp [Except.toOption]

/-- **Records.** A closed record is read from the object or the list that stands in the text and is
what its fields make of it. -/
theorem record_means (fills : shape.Fills fill limit) :
    Means (limit + 1) (Decoder.record shape) (shape.meaning fill) := by
  intro cursor value behind
  rw [Decoder.record]
  constructor
  · intro succeeds
    split at succeeds
    · next rest stands =>
        obtain ⟨⟨record, middle⟩, filled, succeeds⟩ := bind_eq_ok.mp succeeds
        obtain ⟨members, -, members, filled⟩ := (recordMembers_eq_ok fills).mp filled
        obtain ⟨finished, rfl⟩ := finishRecord_eq_ok.mp succeeds
        refine ⟨.object _, ?_, Option.bind_eq_some_iff.mpr ⟨record, filled, finished⟩⟩
        rw [Stands]
        exact (comp_mark_iff stands).mpr members
    · next rest stands =>
        obtain ⟨⟨record, middle⟩, filled, succeeds⟩ := bind_eq_ok.mp succeeds
        obtain ⟨finish, close, succeeds⟩ := bind_eq_ok.mp succeeds
        obtain ⟨items, items, filled⟩ :=
          (recordItems_eq_ok fills.slots).mp ⟨middle, filled, close⟩
        obtain ⟨finished, rfl⟩ := finishRecord_eq_ok.mp succeeds
        refine ⟨.array _, ?_, Option.bind_eq_some_iff.mpr ⟨record, filled, finished⟩⟩
        rw [Stands]
        exact (comp_mark_iff stands).mpr items
    · simp at succeeds
  · rintro ⟨json, stands, means⟩
    cases json with
    | object members =>
        obtain ⟨record, filled, finished⟩ := Option.bind_eq_some_iff.mp means
        rw [Stands] at stands
        obtain ⟨_, ⟨shown, rfl⟩, stands⟩ := stands
        have few := length_lt_of_members stands
        simp only [shown]
        have reads : recordMembers shape (cursor.skipGap.advance.rest.length + 1) [] shape.start
            cursor.skipGap.advance = .ok (record, behind) :=
          (recordMembers_eq_ok fills).mpr ⟨members, by omega, stands, filled⟩
        exact bind_eq_ok.mpr ⟨_, reads, finishRecord_eq_ok.mpr ⟨finished, rfl⟩⟩
    | array items =>
        obtain ⟨record, filled, finished⟩ := Option.bind_eq_some_iff.mp means
        rw [Stands] at stands
        obtain ⟨_, ⟨shown, rfl⟩, stands⟩ := stands
        simp only [shown]
        have reads : ∃ middle, recordItems shape 0 shape.slots shape.start cursor.skipGap.advance =
            .ok (record, middle) ∧ closeItems middle = .ok behind :=
          (recordItems_eq_ok fills.slots).mpr ⟨items, stands, filled⟩
        obtain ⟨middle, reads, close⟩ := reads
        refine bind_eq_ok.mpr ⟨_, reads, bind_eq_ok.mpr ⟨_, close, ?_⟩⟩
        exact finishRecord_eq_ok.mpr ⟨finished, rfl⟩
    | _ => cases means

end Decoder

end ModelScribe

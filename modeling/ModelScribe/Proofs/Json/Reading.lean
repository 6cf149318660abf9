import ModelScribe.Proofs.Json.Grammar

/-! # The reader follows the grammar

The reader decides by the next character and counts fuel, the grammar does neither. One
lemma for each of the reader's steps says where it succeeds in the words of the grammar;
the fuel of a list or an object is enough because each of its items takes a character. So
the reader reads exactly the values that stand in a text (`ModelScribe.Json.readValue_eq_ok`),
and a text is one value if blanks alone follow it (`ModelScribe.Json.parseWritten_eq_ok`).
-/

namespace ModelScribe

namespace Json

variable {cursor behind : Cursor} {first : Bool} {limit fuel : Nat} {value : Json}

theorem readColon_eq_ok : readColon cursor = .ok behind ↔ Mark ':' cursor behind := by
  rw [readColon]
  split
  · next ends => simp [Mark, not_letter ends]
  · next rest stands => simp [Mark, letter_iff stands]
  · next ends others => exact iff_of_false (Cursor.complain_ne_ok _ _) fun mark => others _ mark.1

/-- An object ends where no key comes. -/
theorem nextKey_eq_ok_none :
    nextKey first cursor = .ok none ↔ Mark '}' cursor cursor.skipGap.advance := by
  rw [nextKey]
  split
  · next ends => simp [Mark, not_letter ends]
  · next rest stands => simp [Mark, letter_iff stands]
  · next character rest others stands =>
      refine iff_of_false (fun read => ?_) fun mark => others ((letter_iff stands).mp mark).1
      dsimp only at read
      repeat' split at read
      all_goals simp at read

/-- A key comes behind its comma and its quote. -/
theorem nextKey_eq_ok_some :
    nextKey first cursor = .ok (some behind) ↔
      Relation.Comp (Comma first) (Mark '"') cursor behind := by
  cases first with
  | true =>
      rw [nextKey, Comma, Relation.eq_comp]
      split
      · next ends => simp [Mark, not_letter ends]
      · next rest stands => simp [Mark, letter_iff stands]
      · next character rest others stands =>
          by_cases quote : character = '"' <;> simp [Mark, letter_iff stands, quote]
  | false =>
      rw [nextKey, Comma]
      split
      · next ends => simp [Relation.Comp, Mark, not_letter ends]
      · next rest stands => simp [Relation.Comp, Mark, letter_iff stands]
      · next character rest others stands =>
          by_cases comma : character = ','
          · simp only [Bool.false_eq_true, if_false, if_true, comma, Relation.Comp, Mark,
              letter_iff stands, true_and, exists_eq_left']
            split
            · next ends => simp [not_letter ends]
            · next rest stands => simp [letter_iff stands]
            · next rest stands => simp [letter_iff stands]
            · next others _ =>
                exact iff_of_false (Cursor.complain_ne_ok _ _) fun mark => others _ mark.1
          · simp [Relation.Comp, Mark, letter_iff stands, comma]

/-- A list ends where no item comes. -/
theorem nextItem_eq_ok_none :
    nextItem first cursor = .ok none ↔ Mark ']' cursor cursor.skipGap.advance := by
  rw [nextItem]
  split
  · next ends => simp [Mark, not_letter ends]
  · next rest stands => simp [Mark, letter_iff stands]
  · next character rest others stands =>
      refine iff_of_false (fun read => ?_) fun mark => others ((letter_iff stands).mp mark).1
      dsimp only at read
      repeat' split at read
      all_goals simp at read

/-- An item comes behind its comma. -/
theorem nextItem_eq_ok_some {start : Cursor} :
    nextItem first cursor = .ok (some start) ↔
      ∃ middle, Comma first cursor middle ∧ Opens middle.skipGap ∧ middle.skipGap = start := by
  cases first with
  | true =>
      rw [nextItem, Comma]
      split
      · next ends => simp [Opens, ends]
      · next rest stands => simp [opens_iff stands]
      · next character rest others stands =>
          have apart : character ≠ ']' := others
          simp [opens_iff stands, apart]
  | false =>
      rw [nextItem, Comma]
      split
      · next ends => simp [Mark, not_letter ends]
      · next rest stands => simp [Mark, letter_iff stands]
      · next character rest others stands =>
          by_cases comma : character = ','
          · simp only [Mark, letter_iff stands, comma, Bool.false_eq_true, if_false, if_true,
              true_and, exists_eq_left']
            split
            · next ends => simp [Opens, ends]
            · next rest stands => simp [opens_iff stands]
            · next unfinished others =>
                obtain ⟨shown, tail, next⟩ := List.exists_cons_of_ne_nil unfinished
                have opens : Opens cursor.skipGap.advance.skipGap :=
                  ⟨shown, tail, next, fun same => others tail (same ▸ next)⟩
                simp [opens]
          · simp [Mark, letter_iff stands, comma]

/-- A value is an item behind its comma where the next item starts with it. -/
theorem exists_nextItem :
    (∃ start, nextItem first cursor = .ok (some start) ∧ Stands limit value start behind) ↔
      Relation.Comp (Comma first) (Stands limit value) cursor behind := by
  constructor
  · rintro ⟨start, next, stands⟩
    obtain ⟨middle, comma, -, rfl⟩ := nextItem_eq_ok_some.mp next
    exact ⟨middle, comma, stands_skipGap.mp stands⟩
  · rintro ⟨middle, comma, stands⟩
    refine ⟨middle.skipGap, ?_, stands_skipGap.mpr stands⟩
    exact nextItem_eq_ok_some.mpr ⟨middle, comma, stands.opens, rfl⟩

/-- A reader reads the values that stand in the text, up to a limit. -/
def FollowsGrammar (read : Cursor → Except JsonError (Json × Cursor)) (limit : Nat) : Prop :=
  ∀ cursor value behind, read cursor = .ok (value, behind) ↔ Stands limit value cursor behind

section Parts

variable {read : Cursor → Except JsonError (Json × Cursor)}

/-- Reading with fuel finds the items of a list that has fewer of them. -/
theorem readItems_eq_ok {before items : List Json}
    (reads : FollowsGrammar read limit) :
    readItems read fuel first cursor before = .ok (items, behind) ↔
      ∃ found, items = before.reverse ++ found ∧ found.length < fuel ∧
        Items (Stands limit) first found cursor behind := by
  induction fuel generalizing first cursor before with
  | zero => simp [readItems]
  | succ fuel ih =>
      rw [readItems]
      constructor
      · intro succeeds
        obtain ⟨item, next, succeeds⟩ := bind_eq_ok.mp succeeds
        cases item with
        | none =>
            obtain ⟨rfl, rfl⟩ := Prod.mk.inj (Except.ok.inj succeeds)
            exact ⟨[], (List.append_nil _).symm, Nat.succ_pos _, nextItem_eq_ok_none.mp next⟩
        | some start =>
            obtain ⟨⟨value, middle⟩, found, succeeds⟩ := bind_eq_ok.mp succeeds
            obtain ⟨others, rfl, few, rest⟩ := ih.mp succeeds
            obtain ⟨place, comma, stands⟩ :=
              exists_nextItem.mp ⟨start, next, (reads _ _ _).mp found⟩
            exact ⟨value :: others, by simp, by simpa using few, place, comma, middle, stands, rest⟩
      · rintro ⟨found, rfl, few, stands⟩
        cases found with
        | nil =>
            obtain ⟨-, rfl⟩ := id stands
            refine bind_eq_ok.mpr ⟨none, nextItem_eq_ok_none.mpr stands, ?_⟩
            simp [pure, Except.pure]
        | cons value others =>
            obtain ⟨place, comma, middle, here, rest⟩ := stands
            obtain ⟨start, next, here⟩ := exists_nextItem.mpr ⟨place, comma, here⟩
            refine bind_eq_ok.mpr ⟨some start, next, bind_eq_ok.mpr ⟨_, (reads _ _ _).mpr here, ?_⟩⟩
            exact ih.mpr ⟨others, by simp, by simpa using few, rest⟩

/-- Reading with fuel finds the members of an object that has fewer of them. -/
theorem readMembers_eq_ok {before members : List (String × Json)}
    (reads : FollowsGrammar read limit) :
    readMembers read fuel first cursor before = .ok (members, behind) ↔
      ∃ found, members = before.reverse ++ found ∧ found.length < fuel ∧
        Members (Stands limit) first found cursor behind := by
  induction fuel generalizing first cursor before with
  | zero => simp [readMembers]
  | succ fuel ih =>
      rw [readMembers]
      constructor
      · intro succeeds
        obtain ⟨member, next, succeeds⟩ := bind_eq_ok.mp succeeds
        cases member with
        | none =>
            obtain ⟨rfl, rfl⟩ := Prod.mk.inj (Except.ok.inj succeeds)
            exact ⟨[], (List.append_nil _).symm, Nat.succ_pos _, nextKey_eq_ok_none.mp next⟩
        | some quoted =>
            obtain ⟨⟨key, afterKey⟩, text, succeeds⟩ := bind_eq_ok.mp succeeds
            obtain ⟨afterColon, colon, succeeds⟩ := bind_eq_ok.mp succeeds
            obtain ⟨⟨value, middle⟩, found, succeeds⟩ := bind_eq_ok.mp succeeds
            obtain ⟨others, rfl, few, rest⟩ := ih.mp succeeds
            obtain ⟨place, comma, quote⟩ := nextKey_eq_ok_some.mp next
            exact ⟨(key, value) :: others, by simp, by simpa using few, place, comma, middle,
              ⟨quoted, quote, afterKey, text, afterColon, readColon_eq_ok.mp colon,
                (reads _ _ _).mp found⟩, rest⟩
      · rintro ⟨found, rfl, few, stands⟩
        cases found with
        | nil =>
            obtain ⟨-, rfl⟩ := id stands
            refine bind_eq_ok.mpr ⟨none, nextKey_eq_ok_none.mpr stands, ?_⟩
            simp [pure, Except.pure]
        | cons member others =>
            obtain ⟨place, comma, middle, ⟨quoted, quote, afterKey, text, afterColon, colon, here⟩,
              rest⟩ := stands
            refine bind_eq_ok.mpr ⟨some quoted, nextKey_eq_ok_some.mpr ⟨place, comma, quote⟩, ?_⟩
            refine bind_eq_ok.mpr ⟨_, text, bind_eq_ok.mpr ⟨_, readColon_eq_ok.mpr colon, ?_⟩⟩
            refine bind_eq_ok.mpr ⟨_, (reads _ _ _).mpr here, ?_⟩
            exact ih.mpr ⟨others, by simp, by simpa using few, rest⟩

end Parts

/-- What is read stands in the text. -/
theorem stands_of_readValue 
    (inner : ∀ smaller, limit = smaller + 1 → FollowsGrammar (readValue smaller) smaller)
    (read : readValue limit cursor = .ok (value, behind)) : Stands limit value cursor behind := by
  rw [readValue.eq_def] at read
  dsimp only at read
  split at read
  · cases read
  · next rest stands =>
      obtain ⟨rfl, word⟩ := found_eq_ok.mp read
      rw [Stands]
      exact (comp_mark_iff stands).mpr word
  · next rest stands =>
      obtain ⟨rfl, word⟩ := found_eq_ok.mp read
      rw [Stands]
      exact (comp_mark_iff stands).mpr word
  · next rest stands =>
      obtain ⟨rfl, word⟩ := found_eq_ok.mp read
      rw [Stands]
      exact (comp_mark_iff stands).mpr word
  · next rest stands =>
      obtain ⟨text, rfl, reads⟩ := formed_eq_ok.mp read
      rw [Stands]
      exact (comp_mark_iff stands).mpr reads
  · next rest stands =>
      obtain ⟨number, rfl, reads⟩ := formed_eq_ok.mp read
      rw [Stands]
      exact .inl ((comp_mark_iff stands).mpr reads)
  · next rest stands =>
      cases limit with
      | zero => cases read
      | succ smaller =>
          obtain ⟨items, rfl, reads⟩ := formed_eq_ok.mp read
          obtain ⟨found, rfl, -, items⟩ := (readItems_eq_ok (inner _ rfl)).mp reads
          rw [Stands]
          exact (comp_mark_iff stands).mpr items
  · next rest stands =>
      cases limit with
      | zero => cases read
      | succ smaller =>
          obtain ⟨members, rfl, reads⟩ := formed_eq_ok.mp read
          obtain ⟨found, rfl, -, members⟩ := (readMembers_eq_ok (inner _ rfl)).mp reads
          rw [Stands]
          exact (comp_mark_iff stands).mpr members
  · next digit rest _ _ _ _ _ _ _ stands =>
      split at read
      · next isDigit =>
          obtain ⟨number, rfl, reads⟩ := formed_eq_ok.mp read
          rw [Stands]
          exact .inr ⟨⟨digit, rest, stands, isDigit⟩, reads⟩
      · cases read

/-- What stands in the text is read. -/
theorem readValue_of_stands 
    (inner : ∀ smaller, limit = smaller + 1 → FollowsGrammar (readValue smaller) smaller)
    (stands : Stands limit value cursor behind) : readValue limit cursor = .ok (value, behind) := by
  rw [readValue.eq_def]
  match limit, value with
  | _, .null =>
      rw [Stands] at stands
      obtain ⟨middle, ⟨shown, rfl⟩, word⟩ := stands
      simp only [shown]
      exact found_eq_ok.mpr ⟨rfl, word⟩
  | _, .bool true =>
      rw [Stands] at stands
      obtain ⟨middle, ⟨shown, rfl⟩, word⟩ := stands
      simp only [shown]
      exact found_eq_ok.mpr ⟨rfl, word⟩
  | _, .bool false =>
      rw [Stands] at stands
      obtain ⟨middle, ⟨shown, rfl⟩, word⟩ := stands
      simp only [shown]
      exact found_eq_ok.mpr ⟨rfl, word⟩
  | _, .string text =>
      rw [Stands] at stands
      obtain ⟨middle, ⟨shown, rfl⟩, reads⟩ := stands
      simp only [shown]
      exact formed_eq_ok.mpr ⟨text, rfl, reads⟩
  | _, .number value =>
      rw [Stands] at stands
      rcases stands with ⟨middle, ⟨shown, rfl⟩, reads⟩ | ⟨⟨digit, rest, shown, isDigit⟩, reads⟩
      · simp only [shown]
        exact formed_eq_ok.mpr ⟨value, rfl, reads⟩
      · simp only [shown]
        split
        case h_1 same => cases same
        case h_9 same =>
          obtain ⟨rfl, -⟩ := List.cons.inj same
          rw [if_pos isDigit]
          exact formed_eq_ok.mpr ⟨value, rfl, reads⟩
        all_goals
          rename_i same
          cases same
          exact absurd isDigit (by decide)
  | 0, .array _ | 0, .object _ =>
      rw [Stands] at stands
      exact stands.elim
  | limit + 1, .array items =>
      rw [Stands] at stands
      obtain ⟨middle, ⟨shown, rfl⟩, stands⟩ := stands
      have few := length_lt_of_items stands
      simp only [shown]
      refine formed_eq_ok.mpr ⟨items, rfl, (readItems_eq_ok (inner _ rfl)).mpr
        ⟨items, rfl, ?_, stands⟩⟩
      rw [List.length_cons]
      omega
  | limit + 1, .object members =>
      rw [Stands] at stands
      obtain ⟨middle, ⟨shown, rfl⟩, stands⟩ := stands
      have few := length_lt_of_members stands
      simp only [shown]
      refine formed_eq_ok.mpr ⟨members, rfl, (readMembers_eq_ok (inner _ rfl)).mpr
        ⟨members, rfl, ?_, stands⟩⟩
      rw [List.length_cons]
      omega

/-- **Reading a value.** The reader reads what stands in the text. -/
theorem readValue_eq_ok :
    readValue limit cursor = .ok (value, behind) ↔ Stands limit value cursor behind := by
  have follows : FollowsGrammar (readValue limit) limit := by
    induction limit with
    | zero =>
        have inner : ∀ smaller, 0 = smaller + 1 → FollowsGrammar (readValue smaller) smaller :=
          fun _ same => absurd same (Nat.succ_ne_zero _).symm
        exact fun _ _ _ => ⟨stands_of_readValue inner, readValue_of_stands inner⟩
    | succ limit ih =>
        have inner : ∀ smaller, limit + 1 = smaller + 1 →
            FollowsGrammar (readValue smaller) smaller :=
          fun _ same => Nat.succ.inj same ▸ ih
        exact fun _ _ _ => ⟨stands_of_readValue inner, readValue_of_stands inner⟩
  exact follows cursor value behind

/-- What stands in a text is read, so that one value stands at one place. -/
theorem Stands.unique {other : Json} {finish : Cursor}
    (stands : Stands limit value cursor behind) (again : Stands limit other cursor finish) :
    value = other ∧ behind = finish :=
  Prod.mk.inj (Except.ok.inj ((readValue_eq_ok.mpr stands).symm.trans (readValue_eq_ok.mpr again)))

/-- A text is one value if nothing but blanks follow the value. -/
theorem parseWritten_eq_ok {text : String} :
    parseWritten text = .ok value ↔
      ∃ behind, Stands nestingLimit value (Cursor.ofText text) behind ∧
        ∀ character ∈ behind.rest, Cursor.isGap character = true := by
  have blank : ∀ behind : Cursor, behind.skipGap.rest.isEmpty = true ↔
      ∀ character ∈ behind.rest, Cursor.isGap character = true := by
    intro behind
    rw [Cursor.skipGap_eq, List.isEmpty_iff, List.dropWhile_eq_nil_iff]
  rw [parseWritten]
  constructor
  · intro succeeds
    obtain ⟨⟨found, behind⟩, reads, succeeds⟩ := bind_eq_ok.mp succeeds
    dsimp only at succeeds
    split at succeeds
    · next ends =>
        obtain rfl := Except.ok.inj succeeds
        exact ⟨behind, readValue_eq_ok.mp reads, (blank behind).mp ends⟩
    · simp at succeeds
  · rintro ⟨behind, stands, blanks⟩
    refine bind_eq_ok.mpr ⟨_, readValue_eq_ok.mpr stands, ?_⟩
    dsimp only
    rw [if_pos ((blank behind).mpr blanks)]
    rfl

/-- Only a null starts with its first letter. -/
theorem Stands.eq_null {rest : List Char} (stands : Stands limit value cursor behind)
    (shown : cursor.skipGap.rest = 'n' :: rest) : value = .null := by
  have read := readValue_eq_ok.mpr stands
  rw [readValue.eq_def] at read
  simp only [shown] at read
  exact (found_eq_ok.mp read).1.symm

theorem Stands.ne_null (stands : Stands limit value cursor behind)
    (others : ∀ rest, cursor.skipGap.rest = 'n' :: rest → False) : value ≠ .null := by
  rintro rfl
  rw [Stands] at stands
  obtain ⟨middle, ⟨shown, -⟩, -⟩ := stands
  exact others _ shown

end Json

end ModelScribe

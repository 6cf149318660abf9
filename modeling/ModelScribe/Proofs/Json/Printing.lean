import ModelScribe.Proofs.Json.Spelling

/-! # Printed values are read again

A printed value is put together in the same way as the grammar is: parts with commas between them
(`ModelScribe.Json.spells_listed`) inside a list or an object, each of which ends where a number
inside it ends. So filters print a text that spells the value, as long as its numbers are integers
(`ModelScribe.Json.NestsWithin.spells`).
-/

namespace ModelScribe

namespace Json

open JsonNumber ModelScribe.Filter

/-- Every number in a value is an integer of 64 bits, with or without a sign. -/
inductive IsIntegral : Json → Prop
  | null : IsIntegral null
  | bool (value : Bool) : IsIntegral (bool value)
  | integer {value : Int} (least : -(greatestMagnitude : Int) ≤ value)
      (most : value ≤ greatest) : IsIntegral (number (.integer value))
  | string (value : String) : IsIntegral (string value)
  | array {items : List Json} (inside : ∀ item ∈ items, IsIntegral item) :
      IsIntegral (array items)
  | object {members : List (String × Json)} (inside : ∀ member ∈ members, IsIntegral member.2) :
      IsIntegral (object members)

/-- At most so many lists and objects of a value are open at once. -/
inductive NestsWithin : Nat → Json → Prop
  | null (limit : Nat) : NestsWithin limit null
  | bool (limit : Nat) (value : Bool) : NestsWithin limit (bool value)
  | number (limit : Nat) (value : JsonNumber) : NestsWithin limit (number value)
  | string (limit : Nat) (value : String) : NestsWithin limit (string value)
  | array {limit : Nat} {items : List Json} (inside : ∀ item ∈ items, NestsWithin limit item) :
      NestsWithin (limit + 1) (array items)
  | object {limit : Nat} {members : List (String × Json)}
      (inside : ∀ member ∈ members, NestsWithin limit member.2) :
      NestsWithin (limit + 1) (object members)

/-- A number ends before a character that is none of a number's. -/
theorem endsNumber_cons {mark : Char} (rest : List Char)
    (apart : mark.isDigit = false ∧ mark ≠ '.' ∧ mark ≠ 'e' ∧ mark ≠ 'E') :
    EndsNumber (mark :: rest) := by
  rintro next among
  obtain rfl := Option.some.inj among
  exact apart

section Listed

variable {Part : Type} {mark : Char} {text : Part → List Char}
  {Standing : Part → Cursor → Cursor → Prop} {parts : List Part}

/-- Parts with commas between them, up to a closing mark. -/
def Listed (mark : Char) (Standing : Part → Cursor → Cursor → Prop) : (first : Bool) →
    List Part → Cursor → Cursor → Prop
  | _, [] => Mark mark
  | first, part :: parts =>
      Relation.Comp (Comma first) (Relation.Comp (Standing part) (Listed mark Standing false parts))

/-- The texts of further parts, each behind its comma, up to a closing mark. -/
def listedBehind (mark : Char) (text : Part → List Char) : List Part → List Char
  | [] => [mark]
  | part :: parts => ',' :: (text part ++ listedBehind mark text parts)

/-- The texts of parts with commas between them, up to a closing mark. -/
def listed (mark : Char) (text : Part → List Char) : List Part → List Char
  | [] => [mark]
  | part :: parts => text part ++ listedBehind mark text parts

/-- A number ends before what follows an item or a member. -/
theorem endsNumber_listedBehind (closes : mark = ']' ∨ mark = '}') (parts : List Part)
    (rest : List Char) : EndsNumber (listedBehind mark text parts ++ rest) := by
  cases parts with
  | nil => rcases closes with rfl | rfl <;> exact endsNumber_cons rest (by decide)
  | cons part parts => exact endsNumber_cons _ (by decide)

theorem spells_closing (closes : mark = ']' ∨ mark = '}') : Spells [mark] Anything (Mark mark) :=
  spells_mark mark (by rcases closes with rfl | rfl <;> decide)

/-- The parts behind the first are spelled with a comma before each. -/
theorem spells_listedBehind (closes : mark = ']' ∨ mark = '}')
    (inside : ∀ part ∈ parts, Spells (text part) EndsNumber (Standing part)) :
    Spells (listedBehind mark text parts) Anything (Listed mark Standing false parts) := by
  induction parts with
  | nil => exact spells_closing closes
  | cons part parts ih =>
      obtain ⟨here, others⟩ := List.forall_mem_cons.mp inside
      have further := here.append (ih others) fun rest _ =>
        endsNumber_listedBehind closes parts rest
      exact (spells_mark ',' (by decide)).before further

/-- Parts are read back from between their commas. -/
theorem spells_listed (closes : mark = ']' ∨ mark = '}')
    (inside : ∀ part ∈ parts, Spells (text part) EndsNumber (Standing part)) :
    Spells (listed mark text parts) Anything (Listed mark Standing true parts) := by
  cases parts with
  | nil => exact spells_closing closes
  | cons part parts =>
      obtain ⟨here, others⟩ := List.forall_mem_cons.mp inside
      have further := here.append (spells_listedBehind closes others) fun rest _ =>
        endsNumber_listedBehind closes parts rest
      exact further.imp fun stands => ⟨_, rfl, stands⟩

end Listed

variable {limit : Nat} {first : Bool} {Item : Json → Cursor → Cursor → Prop}

/-- Items are parts that are listed up to a closing bracket. -/
theorem items_eq_listed (items : List Json) :
    Items Item first items = Listed ']' Item first items := by
  induction items generalizing first with
  | nil => rfl
  | cons item items ih => rw [Items, Listed, ih]

/-- Members are parts that are listed up to a closing brace. -/
theorem members_eq_listed (members : List (String × Json)) :
    Members Item first members = Listed '}' (Member Item) first members := by
  induction members generalizing first with
  | nil => rfl
  | cons member members ih => rw [Members, Listed, ih]

/-- The text of items is that of the listed parts. -/
theorem itemCharacters_append (items : List Json) :
    Value.itemCharacters (Value.ofItems items) ++ [']'] =
      listed ']' (fun item => (Value.ofJson item).characters) items := by
  induction items with
  | nil => rfl
  | cons item items ih =>
      cases items with
      | nil => rfl
      | cons next items =>
          rw [Value.ofItems] at ih
          rw [Value.ofItems, Value.ofItems, Value.itemCharacters, List.append_assoc,
            List.cons_append, ih]
          rfl

/-- The printed form of a member. -/
def memberText (member : String × Json) : List Char :=
  Value.quotedText member.1 ++ ([':'] ++ (Value.ofJson member.2).characters)

/-- The text of members is that of the listed parts. -/
theorem memberCharacters_append (members : List (String × Json)) :
    Value.memberCharacters (Value.ofMembers members) ++ ['}'] = listed '}' memberText members := by
  induction members with
  | nil => rfl
  | cons member members ih =>
      cases members with
      | nil =>
          rw [Value.ofMembers, Value.ofMembers, Value.memberCharacters]
          simp [memberText, listed, listedBehind]
      | cons next members =>
          rw [Value.ofMembers] at ih
          rw [Value.ofMembers, Value.ofMembers, Value.memberCharacters, List.append_assoc,
            List.cons_append, ih]
          simp [memberText, listed, listedBehind]

/-- A member is read back from its key and its value. -/
theorem spells_member {member : String × Json}
    (inside : Spells (Value.ofJson member.2).characters EndsNumber (Stands limit member.2)) :
    Spells (memberText member) EndsNumber (Member (Stands limit) member) := by
  have colon := (spells_mark ':' (by decide)).before inside
  refine ((JsonString.spells_quoted member.1).before colon).imp fun stands => ?_
  rwa [Relation.comp_assoc] at stands

/-- The number of a document is written with all its digits. -/
theorem characters_ofNumber (value : Int) :
    (Value.ofNumber (.integer value)).characters = printInteger value := by
  rw [Value.ofNumber]
  split
  · rfl
  · rw [Value.characters, String.toList_ofList]

/-- **Printing.** A value is read back from its text, whatever follows that does not go on with a
number. -/
theorem NestsWithin.spells {value : Json} (nests : NestsWithin limit value)
    (integral : value.IsIntegral) :
    Spells (Value.ofJson value).characters EndsNumber (Stands limit value) := by
  induction nests with
  | null =>
      rw [Stands]
      exact ((spells_mark 'n' (by decide)).before (spells_word ['u', 'l', 'l'])).weaken
  | bool limit value =>
      cases value with
      | true =>
          rw [Stands]
          exact ((spells_mark 't' (by decide)).before (spells_word ['r', 'u', 'e'])).weaken
      | false =>
          rw [Stands]
          exact ((spells_mark 'f' (by decide)).before (spells_word ['a', 'l', 's', 'e'])).weaken
  | number limit value =>
      cases integral with
      | integer least most =>
          rw [Value.ofJson, characters_ofNumber, Stands]
          exact spells_integer least most
  | string limit value =>
      rw [Stands]
      exact (JsonString.spells_quoted value).weaken
  | array inside ih =>
      cases integral with
      | array integral =>
          have items := spells_listed (.inl rfl) fun item among =>
            ih item among (integral item among)
          rw [← itemCharacters_append, ← items_eq_listed] at items
          rw [Stands]
          exact ((spells_mark '[' (by decide)).before items).weaken
  | object inside ih =>
      cases integral with
      | object integral =>
          have members := spells_listed (.inr rfl) fun member among =>
            spells_member (ih member among (integral member among))
          rw [← memberCharacters_append, ← members_eq_listed] at members
          rw [Stands]
          exact ((spells_mark '{' (by decide)).before members).weaken

end Json

end ModelScribe

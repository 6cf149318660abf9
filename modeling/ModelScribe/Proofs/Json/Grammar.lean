import ModelScribe.Proofs.Json.Numbers
import ModelScribe.Proofs.Json.Strings

/-! # The grammar of JSON texts

What stands between two places of a text, free of the reader's fuel: items and members
between commas (`ModelScribe.Json.Items`, `ModelScribe.Json.Members`) and values made of
these and of tokens (`ModelScribe.Json.Stands`). Each of these relations is composed of
smaller ones, and locality goes along: a value without numbers stands in a text whatever
follows it (`ModelScribe.Json.local_stands`).
-/

namespace ModelScribe

namespace Json

variable {cursor behind : Cursor} {first : Bool} {limit : Nat} {value : Json}
  {Item : Json → Cursor → Cursor → Prop} {stable : Prop}

/-- The items of a list up to its closing bracket. -/
def Items (Item : Json → Cursor → Cursor → Prop) : (first : Bool) → List Json →
    Cursor → Cursor → Prop
  | _, [] => Mark ']'
  | first, item :: items =>
      Relation.Comp (Comma first) (Relation.Comp (Item item) (Items Item false items))

/-- A member of an object behind its comma. -/
def Member (Item : Json → Cursor → Cursor → Prop) (member : String × Json) :
    Cursor → Cursor → Prop :=
  Relation.Comp (Mark '"') (Relation.Comp (Text member.1)
    (Relation.Comp (Mark ':') (Item member.2)))

/-- The members of an object up to its closing brace. -/
def Members (Item : Json → Cursor → Cursor → Prop) : (first : Bool) → List (String × Json) →
    Cursor → Cursor → Prop
  | _, [] => Mark '}'
  | first, member :: members =>
      Relation.Comp (Comma first) (Relation.Comp (Member Item member) (Members Item false members))

theorem local_items {items : List Json} (locally : ∀ item ∈ items, Local stable 1 (Item item)) :
    Local stable (items.length + 1) (Items Item first items) := by
  induction items generalizing first with
  | nil => exact local_mark ']'
  | cons item items ih =>
      obtain ⟨here, others⟩ := List.forall_mem_cons.mp locally
      refine ((local_comma first).comp (here.comp (ih others))).of_le ?_
      rw [List.length_cons]
      omega

theorem local_member {member : String × Json} (locally : Local stable 1 (Item member.2)) :
    Local stable 1 (Member Item member) :=
  ((local_mark '"').comp ((local_text member.1).comp ((local_mark ':').comp locally))).of_le
    (by decide)

theorem local_members {members : List (String × Json)}
    (locally : ∀ member ∈ members, Local stable 1 (Item member.2)) :
    Local stable (members.length + 1) (Members Item first members) := by
  induction members generalizing first with
  | nil => exact local_mark '}'
  | cons member members ih =>
      obtain ⟨here, others⟩ := List.forall_mem_cons.mp locally
      refine ((local_comma first).comp ((local_member here).comp (ih others))).of_le ?_
      rw [List.length_cons]
      omega

/-- Something else than a closing bracket comes next. -/
def Opens (cursor : Cursor) : Prop :=
  ∃ shown rest, cursor.rest = shown :: rest ∧ shown ≠ ']'

theorem opens_iff {shown : Char} {rest : List Char} (stands : cursor.rest = shown :: rest) :
    Opens cursor ↔ shown ≠ ']' := by
  simp [Opens, stands]

/-- A value stands between two places, at most `limit` lists and objects open at once. -/
def Stands : (limit : Nat) → (value : Json) → (cursor behind : Cursor) → Prop
  | _, .null => Relation.Comp (Mark 'n') (Word ['u', 'l', 'l'])
  | _, .bool true => Relation.Comp (Mark 't') (Word ['r', 'u', 'e'])
  | _, .bool false => Relation.Comp (Mark 'f') (Word ['a', 'l', 's', 'e'])
  | _, .string text => Relation.Comp (Mark '"') (Text text)
  | _, .number value => Number value
  | 0, .array _ | 0, .object _ => fun _ _ => False
  | limit + 1, .array items => Relation.Comp (Mark '[') (Items (Stands limit) true items)
  | limit + 1, .object members => Relation.Comp (Mark '{') (Members (Stands limit) true members)

theorem comp_mark_skipGap {mark : Char} {Next : Cursor → Cursor → Prop} :
    Relation.Comp (Mark mark) Next cursor.skipGap behind ↔
      Relation.Comp (Mark mark) Next cursor behind := by
  simp only [Relation.Comp, mark_skipGap]

/-- Blanks before a value do not matter. -/
theorem stands_skipGap :
    Stands limit value cursor.skipGap behind ↔ Stands limit value cursor behind := by
  fun_cases Stands limit value <;>
    simp only [Number, comp_mark_skipGap, Cursor.skipGap_skipGap]

theorem opens_of_mark {mark : Char} {Next : Cursor → Cursor → Prop}
    (stands : Relation.Comp (Mark mark) Next cursor behind) (apart : mark ≠ ']') :
    Opens cursor.skipGap := by
  obtain ⟨middle, shown, -⟩ := stands
  exact ⟨mark, _, shown.1, apart⟩

/-- No value starts with a closing bracket. -/
theorem Stands.opens (stands : Stands limit value cursor behind) : Opens cursor.skipGap := by
  fun_cases Stands limit value <;> rw [Stands] at stands
  case case5 =>
    rcases stands with negative | ⟨⟨digit, rest, shown, isDigit⟩, -⟩
    · exact opens_of_mark negative (by decide)
    · refine ⟨digit, rest, shown, ?_⟩
      rintro rfl
      exact absurd isDigit (by decide)
  case case6 => exact stands.elim
  case case7 => exact stands.elim
  all_goals exact opens_of_mark stands (by decide)

/-- No number is part of a value. -/
inductive Numberless : Json → Prop
  | null : Numberless null
  | bool (value : Bool) : Numberless (bool value)
  | string (value : String) : Numberless (string value)
  | array {items : List Json} (inside : ∀ item ∈ items, Numberless item) :
      Numberless (array items)
  | object {members : List (String × Json)} (inside : ∀ member ∈ members, Numberless member.2) :
      Numberless (object members)

/-- **Locality of values.** A value is a part of the text, and without numbers it stands there
whatever follows it. -/
theorem local_stands : (limit : Nat) → (value : Json) →
    Local (Numberless value) 1 (Stands limit value)
  | _, .null => by
      rw [Stands]
      exact ((local_mark 'n').comp (local_word _)).of_le (by decide)
  | _, .bool true => by
      rw [Stands]
      exact ((local_mark 't').comp (local_word _)).of_le (by decide)
  | _, .bool false => by
      rw [Stands]
      exact ((local_mark 'f').comp (local_word _)).of_le (by decide)
  | _, .string text => by
      rw [Stands]
      exact ((local_mark '"').comp (local_text text)).of_le (by decide)
  | _, .number value => by
      rw [Stands]
      exact (local_number value).mono (by rintro ⟨⟩) (Nat.le_refl 1)
  | 0, .array _ | 0, .object _ => by
      rw [Stands]
      exact fun _ _ => False.elim
  | limit + 1, .array items => by
      have inside : ∀ item ∈ items, Local (Numberless (.array items)) 1 (Stands limit item) :=
        fun item among => (local_stands limit item).mono
          (fun | .array inside => inside item among) (Nat.le_refl 1)
      rw [Stands]
      exact ((local_mark '[').comp (local_items inside)).of_le (by omega)
  | limit + 1, .object members => by
      have inside : ∀ member ∈ members,
          Local (Numberless (.object members)) 1 (Stands limit member.2) :=
        fun member among => (local_stands limit member.2).mono
          (fun | .object inside => inside member among) (Nat.le_refl 1)
      rw [Stands]
      exact ((local_mark '{').comp (local_members inside)).of_le (by omega)

/-- Each item of a list takes a character. -/
theorem length_lt_of_items {items : List Json}
    (stands : Items (Stands limit) first items cursor behind) :
    items.length < cursor.rest.length := by
  have inside : ∀ item ∈ items, Local False 1 (Stands limit item) :=
    fun item _ => (local_stands limit item).mono False.elim (Nat.le_refl 1)
  have long := (local_items inside).length_le stands
  omega

/-- Each member of an object takes a character. -/
theorem length_lt_of_members {members : List (String × Json)}
    (stands : Members (Stands limit) first members cursor behind) :
    members.length < cursor.rest.length := by
  have inside : ∀ member ∈ members, Local False 1 (Stands limit member.2) :=
    fun member _ => (local_stands limit member.2).mono False.elim (Nat.le_refl 1)
  have long := (local_members inside).length_le stands
  omega

end Json

end ModelScribe

import Mathlib.Data.List.Basic
import Mathlib.Data.List.TakeWhile
import Mathlib.Logic.Relation
import ModelScribe.Json.Reader
import ModelScribe.Proofs.Steps

/-! # Locality of reading

What a reader finds is seen as a relation between the place before it and the place
behind it. It is local (`ModelScribe.Json.Local`): a part of the text, which is found
there whatever follows. The parts that stand one behind the other make a local part
again (`ModelScribe.Json.Local.comp`), so that a text is read part by part, from its
marks (`ModelScribe.Json.local_mark`) and words (`ModelScribe.Json.local_word`) on.
-/

namespace ModelScribe

namespace Cursor

variable {cursor : Cursor} {first : Char} {rest : List Char}

theorem advance_of_cons (stands : cursor.rest = first :: rest) :
    cursor.advance = ⟨rest, cursor.position.after first⟩ := by
  rw [advance, stands]

/-- Skipping takes the longest run of characters that pass the test. -/
theorem skipFrom_eq (test : Char → Bool) (text : List Char) (position : Position) :
    skipFrom test text position =
      ⟨text.dropWhile test, (text.takeWhile test).foldl Position.after position⟩ := by
  induction text generalizing position with
  | nil => rfl
  | cons first rest ih =>
      cases fits : test first with
      | true => simp [skipFrom, fits, ih]
      | false => simp [skipFrom, fits]

/-- What is skipped is the longest run of blanks. -/
theorem skipGap_eq (cursor : Cursor) :
    cursor.skipGap = ⟨cursor.rest.dropWhile isGap,
      (cursor.rest.takeWhile isGap).foldl Position.after cursor.position⟩ :=
  skipFrom_eq ..

/-- What stands at the next token is no blank. -/
theorem isGap_of_skipGap (stands : cursor.skipGap.rest = first :: rest) : isGap first = false := by
  have shown := List.head?_dropWhile_not isGap cursor.rest
  rw [skipGap_eq] at stands
  rwa [show cursor.rest.dropWhile isGap = first :: rest from stands] at shown

theorem skipGap_of_cons (stands : cursor.rest = first :: rest) (solid : isGap first = false) :
    cursor.skipGap = cursor := by
  rw [skipGap, stands, skipFrom, if_neg (by simp [solid]), ← stands]

/-- Blanks are skipped once. -/
@[simp]
theorem skipGap_skipGap (cursor : Cursor) : cursor.skipGap.skipGap = cursor.skipGap := by
  cases stands : cursor.skipGap.rest with
  | nil => rw [skipGap, stands, skipFrom, ← stands]
  | cons first rest => exact skipGap_of_cons stands (isGap_of_skipGap stands)

/-- A complaint is no result. -/
@[simp]
theorem complain_ne_ok {α : Type} (problem : JsonProblem) (value : α) :
    cursor.complain problem ≠ .ok value := by
  intro same
  cases same

end Cursor

namespace Json

variable {cursor behind : Cursor} {least more : Nat}

/-- What stands between two places is a part of the text of at least so many characters. If it is
stable, it stands there whatever follows that part. -/
def Local (stable : Prop) (least : Nat) (Between : Cursor → Cursor → Prop) : Prop :=
  ∀ cursor behind, Between cursor behind → ∃ taken : List Char, least ≤ taken.length ∧
    cursor.rest = taken ++ behind.rest ∧
    (stable → ∀ other, Between ⟨taken ++ other, cursor.position⟩ ⟨other, behind.position⟩)

namespace Local

variable {stable : Prop} {First Next : Cursor → Cursor → Prop}

theorem eq : Local stable 0 Eq := by
  rintro cursor _ rfl
  exact ⟨[], Nat.le_refl 0, rfl, fun _ other => rfl⟩

/-- What stands one behind the other. -/
theorem comp (first : Local stable least First) (next : Local stable more Next) :
    Local stable (least + more) (Relation.Comp First Next) := by
  rintro cursor behind ⟨middle, before, after⟩
  obtain ⟨taken, long, split, again⟩ := first _ _ before
  obtain ⟨others, longOthers, splitOthers, againOthers⟩ := next _ _ after
  refine ⟨taken ++ others, by rw [List.length_append]; omega, ?_, fun holds other => ?_⟩
  · rw [split, splitOthers, List.append_assoc]
  · rw [List.append_assoc]
    exact ⟨_, again holds (others ++ other), againOthers holds other⟩

/-- A local part is local under a stronger condition and with a smaller least length. -/
theorem mono {weaker : Prop} (locally : Local weaker more First) (weaken : stable → weaker)
    (le : least ≤ more) : Local stable least First := by
  intro cursor behind stands
  obtain ⟨taken, long, split, again⟩ := locally _ _ stands
  exact ⟨taken, le.trans long, split, fun holds => again (weaken holds)⟩

theorem of_le (locally : Local stable more First) (le : least ≤ more) :
    Local stable least First :=
  locally.mono id le

/-- Locality is a matter of what stands where. -/
theorem congr (same : ∀ {cursor behind}, First cursor behind ↔ Next cursor behind)
    (locally : Local stable least First) : Local stable least Next := by
  intro cursor behind stands
  obtain ⟨taken, long, split, again⟩ := locally _ _ (same.mpr stands)
  exact ⟨taken, long, split, fun holds other => same.mp (again holds other)⟩

/-- What stands in one of several ways. -/
theorem union {Kind : Type} {Way : Kind → Cursor → Cursor → Prop}
    (locally : ∀ kind, Local stable least (Way kind)) :
    Local stable least fun cursor behind => ∃ kind, Way kind cursor behind := by
  rintro cursor behind ⟨kind, stands⟩
  obtain ⟨taken, long, split, again⟩ := locally kind _ _ stands
  exact ⟨taken, long, split, fun holds other => ⟨kind, again holds other⟩⟩

/-- Two parts that are local leave a choice that is. -/
theorem or (first : Local stable least First) (next : Local stable least Next) :
    Local stable least fun cursor behind => First cursor behind ∨ Next cursor behind := by
  rintro cursor behind (stands | stands)
  · obtain ⟨taken, long, split, again⟩ := first _ _ stands
    exact ⟨taken, long, split, fun holds other => .inl (again holds other)⟩
  · obtain ⟨taken, long, split, again⟩ := next _ _ stands
    exact ⟨taken, long, split, fun holds other => .inr (again holds other)⟩

/-- What stands only under a condition that is not about the text. -/
theorem guard {condition : Prop} (locally : condition → Local stable least First) :
    Local stable least fun cursor behind => condition ∧ First cursor behind := by
  rintro cursor behind ⟨meets, stands⟩
  obtain ⟨taken, long, split, again⟩ := locally meets _ _ stands
  exact ⟨taken, long, split, fun holds other => ⟨meets, again holds other⟩⟩

/-- A local part is at least as long as it says. -/
theorem length_le (locally : Local stable least First) (stands : First cursor behind) :
    least + behind.rest.length ≤ cursor.rest.length := by
  obtain ⟨taken, long, split, -⟩ := locally _ _ stands
  rw [split, List.length_append]
  omega

end Local

variable {stable : Prop}

/-- A character stands here. -/
def Letter (letter : Char) (cursor behind : Cursor) : Prop :=
  cursor.rest = letter :: behind.rest ∧ behind = cursor.advance

/-- A mark stands behind blanks. -/
def Mark (mark : Char) (cursor behind : Cursor) : Prop :=
  Letter mark cursor.skipGap behind

/-- A comma stands before each item or member but the first. -/
def Comma : (first : Bool) → (cursor behind : Cursor) → Prop
  | true => Eq
  | false => Mark ','

variable {letter mark : Char}

theorem not_letter (ends : cursor.rest = []) : ¬ Letter letter cursor behind := by
  simp [Letter, ends]

/-- Which character stands here, and where it ends. -/
theorem letter_iff {shown : Char} {rest : List Char} (stands : cursor.rest = shown :: rest) :
    Letter letter cursor behind ↔ shown = letter ∧ cursor.advance = behind := by
  rw [Letter, stands]
  constructor
  · rintro ⟨same, rfl⟩
    exact ⟨(List.cons.inj same).1, rfl⟩
  · rintro ⟨rfl, rfl⟩
    exact ⟨by rw [Cursor.advance_of_cons stands], rfl⟩

/-- A letter is local and one character long. -/
theorem local_letter (letter : Char) : Local stable 1 (Letter letter) := by
  rintro cursor behind ⟨stands, rfl⟩
  refine ⟨[letter], Nat.le_refl 1, stands, fun _ other => ⟨rfl, ?_⟩⟩
  rw [Cursor.advance_of_cons stands]
  rfl

/-- A mark is local and at least one character long. -/
theorem local_mark (mark : Char) : Local stable 1 (Mark mark) := by
  rintro cursor behind ⟨stands, rfl⟩
  have solid := Cursor.isGap_of_skipGap stands
  let gap := cursor.rest.takeWhile Cursor.isGap
  have blank : ∀ character ∈ gap, Cursor.isGap character = true :=
    fun _ among => List.mem_takeWhile_imp among
  refine ⟨gap ++ [mark], by simp, ?_, fun _ other => ?_⟩
  · rw [List.append_assoc, List.singleton_append, ← stands, Cursor.skipGap_eq]
    exact List.takeWhile_append_dropWhile.symm
  · have skipped : (Cursor.mk (gap ++ [mark] ++ other) cursor.position).skipGap =
        ⟨mark :: other, gap.foldl Position.after cursor.position⟩ := by
      rw [Cursor.skipGap_eq, List.append_assoc, List.dropWhile_append_of_pos blank,
        List.takeWhile_append_of_pos blank]
      simp [solid]
    rw [Mark, skipped, Letter, Cursor.advance_of_cons stands, Cursor.skipGap_eq]
    exact ⟨rfl, rfl⟩

/-- A mark comes next, and something behind it. -/
theorem comp_mark_iff {rest : List Char} {Next : Cursor → Cursor → Prop}
    (shown : cursor.skipGap.rest = mark :: rest) :
    Relation.Comp (Mark mark) Next cursor behind ↔ Next cursor.skipGap.advance behind := by
  simp only [Relation.Comp, Mark, letter_iff shown, true_and, exists_eq_left']

/-- Blanks before a mark may be skipped or not. -/
@[simp]
theorem mark_skipGap : Mark mark cursor.skipGap behind ↔ Mark mark cursor behind := by
  rw [Mark, Mark, Cursor.skipGap_skipGap]

/-- A comma is local, and there may be none. -/
theorem local_comma (first : Bool) : Local stable 0 (Comma first) := by
  cases first with
  | true => exact .eq
  | false => exact (local_mark ',').of_le (Nat.zero_le 1)

/-- The rest of a word stands here. -/
def Word (expected : List Char) (cursor behind : Cursor) : Prop :=
  readWord expected cursor = .ok behind

theorem word_nil : Word [] = Eq := by
  funext cursor behind
  simp [Word, readWord]

/-- A word is its first letter and then the word of the others. -/
theorem word_cons (letter : Char) (expected : List Char) :
    Word (letter :: expected) = Relation.Comp (Letter letter) (Word expected) := by
  funext cursor behind
  rw [Word, readWord, eq_iff_iff, Relation.Comp]
  split
  · next ends => simp [not_letter ends]
  · next character rest stands =>
      by_cases same : character = letter <;> simp [letter_iff stands, same, Word]

/-- A word stands where its letters are next. -/
theorem word_iff {expected : List Char} :
    Word expected cursor behind ↔
      cursor.rest = expected ++ behind.rest ∧
        behind.position = expected.foldl Position.after cursor.position := by
  induction expected generalizing cursor with
  | nil =>
      obtain ⟨rest, position⟩ := cursor
      obtain ⟨behind, finish⟩ := behind
      rw [word_nil, Cursor.mk.injEq]
      exact and_congr_right' eq_comm
  | cons letter expected ih =>
      rw [word_cons, List.cons_append, List.foldl_cons]
      constructor
      · rintro ⟨middle, ⟨stands, rfl⟩, rest⟩
        obtain ⟨split, place⟩ := ih.mp rest
        rw [Cursor.advance_of_cons stands] at split place
        exact ⟨by rw [stands, Cursor.advance_of_cons stands, ← split], place⟩
      · rintro ⟨split, place⟩
        refine ⟨cursor.advance, (letter_iff split).mpr ⟨rfl, rfl⟩, ih.mpr ?_⟩
        rw [Cursor.advance_of_cons split]
        exact ⟨rfl, place⟩

/-- A word is local and as long as its letters. -/
theorem local_word (expected : List Char) : Local stable expected.length (Word expected) := by
  intro cursor behind stands
  obtain ⟨split, place⟩ := word_iff.mp stands
  exact ⟨expected, Nat.le_refl _, split, fun _ other => word_iff.mpr ⟨rfl, place⟩⟩

end Json

end ModelScribe

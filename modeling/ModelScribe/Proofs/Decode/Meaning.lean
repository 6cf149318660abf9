import ModelScribe.Decode.Scalar
import ModelScribe.Proofs.Json.Reading

/-! # What decoders make of values

A decoder means a partial function of JSON values (`ModelScribe.Decoder.Means`) if it
reads the value that stands in the text and gives what the function gives for it. So do
the decoders of plain values, of values or null (`ModelScribe.Decoder.nullable_means`)
and of fixed choices (`ModelScribe.Decoder.variant_means`).
-/

namespace ModelScribe

namespace Json

/-- A value that is `true` or `false`. -/
def asBool? : Json → Option Bool
  | bool value => some value
  | _ => none

/-- A value that is a string. -/
def asString? : Json → Option String
  | string value => some value
  | _ => none

/-- A value that is null. -/
def asUnit? : Json → Option Unit
  | null => some ()
  | _ => none

variable {α : Type} {json : Json}

theorem asBool?_eq_some {value : Bool} : json.asBool? = some value ↔ json = bool value := by
  cases json <;> simp [asBool?]

theorem asString?_eq_some {value : String} : json.asString? = some value ↔ json = string value := by
  cases json <;> simp [asString?]

theorem asUnit?_eq_some {value : Unit} : json.asUnit? = some value ↔ json = null := by
  cases json <;> simp [asUnit?]

/-- A value that may be null. -/
def orNull? (meaning : Json → Option α) : Json → Option (Option α)
  | null => some none
  | value => (meaning value).map some

/-- A value that names a choice, alone or as the only key of an object over null. -/
def asChoice? (choices : List (String × α)) : Json → Option α
  | string name => choices.lookup name
  | object [(name, null)] => choices.lookup name
  | _ => none

/-- A value that is not null means what it would without null. -/
theorem orNull?_of_ne {meaning : Json → Option α} (apart : json ≠ null) :
    orNull? meaning json = (meaning json).map some := by
  rw [orNull?]
  exact apart

/-- A choice is meant by its name, alone or as the key of a null. -/
theorem asChoice?_eq_some {choices : List (String × α)} {choice : α} :
    json.asChoice? choices = some choice ↔
      ∃ name, (json = string name ∨ json = object [(name, null)]) ∧
        choices.lookup name = some choice := by
  constructor
  · intro names
    unfold asChoice? at names
    split at names
    · next name => exact ⟨name, .inl rfl, names⟩
    · next name => exact ⟨name, .inr rfl, names⟩
    · cases names
  · rintro ⟨name, rfl | rfl, found⟩
    · exact found
    · exact found

end Json

namespace Decoder

open Json

variable {α β : Type} {limit : Nat} {cursor behind : Cursor}

/-- A decoder reads the value that stands in the text and gives what it means. -/
def Means (limit : Nat) (decoder : Decoder α) (meaning : Json → Option α) : Prop :=
  ∀ {cursor value behind}, decoder cursor = .ok (value, behind) ↔
    ∃ json, Stands limit json cursor behind ∧ meaning json = some value

/-- A result of reading is one of decoding. -/
@[simp]
theorem lift_eq_ok {step : Except JsonError α} {value : α} :
    lift step = .ok value ↔ step = .ok value :=
  mapError_eq_ok

/-- Where an error is reported has no part in the results. -/
@[simp]
theorem within_eq_ok {step : PathStep} {result : Except DecodeError α} {value : α} :
    within step result = .ok value ↔ result = .ok value :=
  mapError_eq_ok

/-- A failure is no result. -/
@[simp]
theorem fail_ne_ok (problem : DecodeProblem) (position : Position) (value : α) :
    fail problem position ≠ .ok value := by
  intro same
  cases same

/-- A refusal gives nothing. -/
@[simp]
theorem refuse_ne_ok (wanted : Wanted) (cursor : Cursor) (value : α) :
    refuse wanted cursor ≠ .ok value := by
  intro succeeds
  rw [refuse] at succeeds
  split at succeeds
  all_goals simp at succeeds
  split at succeeds <;> simp at succeeds

/-- The decoder of truth values gives what they mean. -/
theorem boolean_means : Means limit boolean asBool? := by
  intro cursor value behind
  rw [boolean]
  constructor
  · intro succeeds
    split at succeeds
    · next rest stands =>
        obtain ⟨rfl, word⟩ := found_eq_ok.mp succeeds
        refine ⟨.bool true, ?_, rfl⟩
        rw [Stands]
        exact (comp_mark_iff stands).mpr (lift_eq_ok.mp word)
    · next rest stands =>
        obtain ⟨rfl, word⟩ := found_eq_ok.mp succeeds
        refine ⟨.bool false, ?_, rfl⟩
        rw [Stands]
        exact (comp_mark_iff stands).mpr (lift_eq_ok.mp word)
    · simp at succeeds
  · rintro ⟨json, stands, means⟩
    obtain rfl := asBool?_eq_some.mp means
    cases value with
    | true =>
        rw [Stands] at stands
        obtain ⟨middle, ⟨shown, rfl⟩, word⟩ := stands
        simp only [shown]
        exact found_eq_ok.mpr ⟨rfl, lift_eq_ok.mpr word⟩
    | false =>
        rw [Stands] at stands
        obtain ⟨middle, ⟨shown, rfl⟩, word⟩ := stands
        simp only [shown]
        exact found_eq_ok.mpr ⟨rfl, lift_eq_ok.mpr word⟩

/-- The decoder of strings gives what they mean. -/
theorem string_means : Means limit string asString? := by
  intro cursor value behind
  rw [string]
  constructor
  · intro succeeds
    split at succeeds
    · next rest stands =>
        refine ⟨.string value, ?_, rfl⟩
        rw [Stands]
        exact (comp_mark_iff stands).mpr (lift_eq_ok.mp succeeds)
    · simp at succeeds
  · rintro ⟨json, stands, means⟩
    obtain rfl := asString?_eq_some.mp means
    rw [Stands] at stands
    obtain ⟨middle, ⟨shown, rfl⟩, text⟩ := stands
    simp only [shown]
    exact lift_eq_ok.mpr text

/-- The decoder of nothing gives what null means. -/
theorem unit_means : Means limit unit asUnit? := by
  intro cursor value behind
  rw [unit]
  constructor
  · intro succeeds
    split at succeeds
    · next rest stands =>
        obtain ⟨-, word⟩ := found_eq_ok.mp succeeds
        refine ⟨.null, ?_, rfl⟩
        rw [Stands]
        exact (comp_mark_iff stands).mpr (lift_eq_ok.mp word)
    · simp at succeeds
  · rintro ⟨json, stands, means⟩
    obtain rfl := asUnit?_eq_some.mp means
    rw [Stands] at stands
    obtain ⟨middle, ⟨shown, rfl⟩, word⟩ := stands
    simp only [shown]
    exact found_eq_ok.mpr ⟨rfl, lift_eq_ok.mpr word⟩

/-- A value or null is read by the decoder of the value, unless a null comes. -/
theorem nullable_means {decoder : Decoder α} {meaning : Json → Option α}
    (means : Means limit decoder meaning) :
    Means limit (nullable decoder) (orNull? meaning) := by
  intro cursor value behind
  rw [nullable]
  constructor
  · intro succeeds
    split at succeeds
    · next rest stands =>
        obtain ⟨rfl, word⟩ := found_eq_ok.mp succeeds
        refine ⟨.null, ?_, rfl⟩
        rw [Stands]
        exact (comp_mark_iff stands).mpr (lift_eq_ok.mp word)
    · next others =>
        obtain ⟨found, rfl, reads⟩ := formed_eq_ok.mp succeeds
        obtain ⟨json, stands, means⟩ := means.mp reads
        have stands := stands_skipGap.mp stands
        have apart := stands.ne_null others
        exact ⟨json, stands, by rw [orNull?_of_ne apart, means, Option.map_some]⟩
  · rintro ⟨json, stands, null⟩
    split
    · next rest shown =>
        obtain rfl := stands.eq_null shown
        obtain rfl := Option.some.inj null
        rw [Stands] at stands
        obtain ⟨middle, ⟨-, rfl⟩, word⟩ := stands
        exact found_eq_ok.mpr ⟨rfl, lift_eq_ok.mpr word⟩
    · next others =>
        rw [orNull?_of_ne (stands.ne_null others)] at null
        obtain ⟨found, meant, rfl⟩ := Option.map_eq_some_iff.mp null
        have reads := means.mpr ⟨json, stands_skipGap.mpr stands, meant⟩
        exact formed_eq_ok.mpr ⟨found, rfl, reads⟩

/-- A name chooses what it stands for and reads nothing. -/
theorem chosen_eq_ok {choices : List (String × α)} {name : String} {choice : α} :
    chosen choices name cursor = .ok (choice, behind) ↔
      choices.lookup name = some choice ∧ cursor = behind := by
  rw [chosen]
  cases choices.lookup name with
  | none => simp
  | some found => simp

/-- A variant that is an object ends at its closing brace. -/
theorem closeVariant_eq_ok : closeVariant cursor = .ok behind ↔ Mark '}' cursor behind := by
  rw [closeVariant]
  split
  · next ends => simp [Mark, not_letter ends]
  · next rest stands => simp [Mark, letter_iff stands]
  · next ends others => exact iff_of_false (fail_ne_ok _ _ _) fun mark => others _ mark.1

/-- The decoder of variants gives what their names mean. -/
theorem variant_means (choices : List (String × α)) :
    Means (limit + 1) (variant choices) (asChoice? choices) := by
  intro cursor value behind
  rw [variant]
  constructor
  · intro succeeds
    split at succeeds
    · simp at succeeds
    · next rest stands =>
        obtain ⟨⟨name, middle⟩, text, succeeds⟩ := bind_eq_ok.mp succeeds
        obtain ⟨found, rfl⟩ := chosen_eq_ok.mp succeeds
        refine ⟨.string name, ?_, found⟩
        rw [Stands]
        exact (comp_mark_iff stands).mpr (lift_eq_ok.mp text)
    · next rest stands =>
        dsimp only at succeeds
        split at succeeds
        · next rest quoted =>
            obtain ⟨⟨name, afterKey⟩, text, succeeds⟩ := bind_eq_ok.mp succeeds
            obtain ⟨⟨choice, middle⟩, chooses, succeeds⟩ := bind_eq_ok.mp succeeds
            obtain ⟨found, rfl⟩ := chosen_eq_ok.mp chooses
            obtain ⟨afterColon, colon, succeeds⟩ := bind_eq_ok.mp succeeds
            obtain ⟨⟨_, afterNull⟩, null, succeeds⟩ := bind_eq_ok.mp succeeds
            obtain ⟨rfl, close⟩ := found_eq_ok.mp succeeds
            obtain ⟨json, null, nothing⟩ := unit_means.mp (within_eq_ok.mp null)
            obtain rfl := asUnit?_eq_some.mp nothing
            refine ⟨.object [(name, .null)], ?_, found⟩
            rw [Stands]
            refine (comp_mark_iff stands).mpr ⟨_, rfl, _, ?_, closeVariant_eq_ok.mp close⟩
            refine (comp_mark_iff quoted).mpr ⟨_, lift_eq_ok.mp text, _, ?_, null⟩
            exact readColon_eq_ok.mp (lift_eq_ok.mp colon)
        · simp at succeeds
    · simp at succeeds
  · rintro ⟨json, stands, means⟩
    obtain ⟨name, rfl | rfl, found⟩ := asChoice?_eq_some.mp means
    · rw [Stands] at stands
      obtain ⟨middle, ⟨shown, rfl⟩, text⟩ := stands
      simp only [shown]
      exact bind_eq_ok.mpr ⟨_, lift_eq_ok.mpr text, chosen_eq_ok.mpr ⟨found, rfl⟩⟩
    · rw [Stands] at stands
      obtain ⟨_, ⟨shown, rfl⟩, _, rfl, afterNull, member, close⟩ := stands
      obtain ⟨_, ⟨quoted, rfl⟩, afterKey, text, afterColon, colon, null⟩ := member
      simp only [shown, quoted]
      refine bind_eq_ok.mpr ⟨_, lift_eq_ok.mpr text, ?_⟩
      refine bind_eq_ok.mpr ⟨_, chosen_eq_ok.mpr ⟨found, rfl⟩, ?_⟩
      refine bind_eq_ok.mpr ⟨_, lift_eq_ok.mpr (readColon_eq_ok.mpr colon), ?_⟩
      refine bind_eq_ok.mpr ⟨_, within_eq_ok.mpr (unit_means.mpr ⟨.null, null, rfl⟩), ?_⟩
      exact found_eq_ok.mpr ⟨rfl, closeVariant_eq_ok.mpr close⟩

end Decoder

end ModelScribe

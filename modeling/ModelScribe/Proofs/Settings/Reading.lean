import ModelScribe.Proofs.Decode.RecordMeaning
import ModelScribe.Settings

/-! # Reading settings files

The settings of a text are what its first value stands for
(`ModelScribe.SettingsFile.ofText_eq_ok`): the members of an object, or the items of a
list, filled in one after the other (`ModelScribe.SettingsFile.fill`).
-/

namespace ModelScribe

namespace SettingsFile

open Json Decoder

variable {α : Type} {limit : Nat} {text origin : String} {file : SettingsFile}

/-- The settings with the value of a key filled in, if the key may have it. -/
def fill (key : String) (file : SettingsFile) (value : Json) : Option SettingsFile :=
  match key with
  | "module" =>
      (orNull? (asChoice? (Convention.all.map fun choice => (choice.keyword, choice))) value).map
        fun setting => { file with convention := setting }
  | "root_name" => (orNull? asString? value).map fun setting => { file with rootName := setting }
  | "indent" =>
      (orNull? (asChoice? (IndentStyle.all.map fun choice => (choice.keyword, choice))) value).map
        fun setting => { file with indent := setting }
  | "header" => (orNull? asBool? value).map fun setting => { file with header := setting }
  | "import" => (orNull? asBool? value).map fun setting => { file with imports := setting }
  | "raw" => (orNull? asBool? value).map fun setting => { file with raw := setting }
  | _ => none

/-- The decoder of a setting means what its values mean, or nothing for null. -/
theorem slot_means {name : String} {decoder : Decoder α} {meaning : Json → Option α}
    {set : SettingsFile → Option α → SettingsFile} (means : Means limit decoder meaning)
    (file : SettingsFile) :
    Means limit ((slot name decoder set).fill file)
      fun value => (orNull? meaning value).map (set file) := by
  intro cursor filled behind
  refine formed_eq_ok.trans ?_
  constructor
  · rintro ⟨setting, rfl, reads⟩
    obtain ⟨json, stands, meant⟩ := (nullable_means means).mp reads
    exact ⟨json, stands, Option.map_eq_some_iff.mpr ⟨setting, meant, rfl⟩⟩
  · rintro ⟨json, stands, filled⟩
    obtain ⟨setting, meant, rfl⟩ := Option.map_eq_some_iff.mp filled
    exact ⟨setting, rfl, (nullable_means means).mpr ⟨json, stands, meant⟩⟩

/-- Each key is read as what it fills in. -/
theorem shape_fills (limit : Nat) : shape.Fills fill (limit + 1) where
  closed := rfl
  slots := by
    intro slot among file
    simp only [shape, List.mem_cons, List.not_mem_nil, or_false] at among
    rcases among with rfl | rfl | rfl | rfl | rfl | rfl
    · exact slot_means (variant_means _) file
    · exact slot_means string_means file
    · exact slot_means (variant_means _) file
    · exact slot_means boolean_means file
    · exact slot_means boolean_means file
    · exact slot_means boolean_means file

/-- The settings that a value stands for. -/
def meaning (value : Json) : Option SettingsFile :=
  shape.meaning fill value

/-- The settings of a text are those of its first value. -/
theorem ofText_eq_ok :
    ofText text origin = .ok file ↔
      ∃ value behind, Stands nestingLimit value (Cursor.ofText text) behind ∧
        meaning value = some file := by
  have means : Means nestingLimit decoder meaning := record_means (shape_fills 125)
  rw [ofText, mapError_eq_ok, decode, Decoder.run]
  constructor
  · intro succeeds
    cases reads : decoder (Cursor.ofText text) with
    | error problem => rw [reads] at succeeds; cases succeeds
    | ok found =>
        obtain ⟨file, behind⟩ := found
        rw [reads] at succeeds
        obtain rfl := Except.ok.inj succeeds
        obtain ⟨value, stands, meant⟩ := means.mp reads
        exact ⟨value, behind, stands, meant⟩
  · rintro ⟨value, behind, stands, meant⟩
    rw [means.mpr ⟨value, stands, meant⟩]
    rfl

/-- The settings of a text that is one value are those of the value. -/
theorem ofText_of_written {value : Json} (written : parseWritten text = .ok value) :
    ofText text origin = .ok file ↔ meaning value = some file := by
  obtain ⟨behind, stands, -⟩ := parseWritten_eq_ok.mp written
  rw [ofText_eq_ok]
  constructor
  · rintro ⟨other, finish, again, meant⟩
    exact (again.unique stands).1 ▸ meant
  · intro meant
    exact ⟨value, behind, stands, meant⟩

end SettingsFile

end ModelScribe

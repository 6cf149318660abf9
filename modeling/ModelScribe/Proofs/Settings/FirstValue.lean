import ModelScribe.Filter
import ModelScribe.Proofs.Settings.Members

/-! # What follows the settings of a file

Settings hold no numbers, so that they stand in a text whatever follows them
(`ModelScribe.SettingsFile.ofText_append`). A text gives settings exactly if it begins
with a value that gives them, and what is behind that value is not looked at: it may be
anything, where a document may have nothing but blanks there
(`ModelScribe.SettingsFile.ofText_eq_ok_iff_first`).
-/

namespace ModelScribe

namespace SettingsFile

open Json

variable {α : Type} {key : String} {value : Json} {file filled : SettingsFile} {items : List Json}
  {names : List String} {text origin : String}

theorem numberless_of_names {keyword : String} (names : Names keyword value) :
    Numberless value := by
  cases names with
  | alone => exact .string keyword
  | key => exact .object (List.forall_mem_singleton.mpr .null)

/-- Where what writes a setting holds no numbers, nothing that is allowed for it does. -/
theorem numberless_of_allows {setting : Setting α} (allows : setting.Allows value)
    (numberless : ∀ choice, setting.Writes value choice → Numberless value) :
    Numberless value := by
  obtain rfl | ⟨choice, writes⟩ := allows
  · exact .null
  · exact numberless choice writes

theorem Allows.numberless (allows : Allows key value) : Numberless value := by
  unfold Allows at allows
  split at allows
  · exact numberless_of_allows allows fun _ => numberless_of_names
  · exact numberless_of_allows allows fun name writes => writes ▸ .string name
  · exact numberless_of_allows allows fun _ => numberless_of_names
  · exact numberless_of_allows allows fun flag writes => writes ▸ .bool flag
  · exact numberless_of_allows allows fun flag writes => writes ▸ .bool flag
  · exact numberless_of_allows allows fun flag writes => writes ▸ .bool flag
  · exact allows.elim

theorem numberless_of_fillItems
    (filledIn : RecordShape.fillItems fill names file items = some filled) :
    ∀ item ∈ items, Numberless item := by
  induction items generalizing names file with
  | nil => exact List.forall_mem_nil _
  | cons item items ih =>
      cases names with
      | nil => cases filledIn
      | cons name names =>
          rw [RecordShape.fillItems] at filledIn
          obtain ⟨between, here, others⟩ := Option.bind_eq_some_iff.mp filledIn
          exact List.forall_mem_cons.mpr ⟨(exists_fill.mp ⟨between, here⟩).numberless, ih others⟩

theorem numberless_of_meaning (meant : meaning value = some file) : Numberless value := by
  match value with
  | .object members =>
      have areSettings := (meaning_object.mp meant).1
      exact .object fun member among => (areSettings.allowed member among).numberless
  | .array items =>
      obtain ⟨record, filledIn, -⟩ := Option.bind_eq_some_iff.mp meant
      exact .array (numberless_of_fillItems filledIn)
  | .null | .bool _ | .number _ | .string _ => cases meant

/-- The value that gives the settings of a text is a part of it, and gives them whatever follows. -/
theorem exists_first (settings : ofText text origin = .ok file) :
    ∃ first rest, text = first ++ rest ∧ (∃ value, parseWritten first = .ok value) ∧
      (∀ other, ofText (first ++ other) origin = .ok file) ∧
        ((∃ whole, parseWritten text = .ok whole) ↔
          ∀ character ∈ rest.toList, Cursor.isGap character = true) := by
  obtain ⟨value, behind, stands, meant⟩ := ofText_eq_ok.mp settings
  obtain ⟨taken, -, split, again⟩ := local_stands nestingLimit value _ _ stands
  have placed : ∀ other, Stands nestingLimit value (Cursor.ofText (String.ofList taken ++ other))
      ⟨other.toList, behind.position⟩ := by
    intro other
    rw [Cursor.ofText, String.toList_append, String.toList_ofList]
    exact again (numberless_of_meaning meant) other.toList
  refine ⟨.ofList taken, .ofList behind.rest, ?_, ⟨value, ?_⟩, fun other => ?_, ?_⟩
  · rw [← String.ofList_append, ← split, Cursor.ofText, String.ofList_toList]
  · refine parseWritten_eq_ok.mpr ⟨_, String.append_empty ▸ placed "", ?_⟩
    exact List.forall_mem_nil _
  · exact ofText_eq_ok.mpr ⟨value, _, placed other, meant⟩
  · rw [String.toList_ofList]
    constructor
    · rintro ⟨whole, parsed⟩
      obtain ⟨finish, stood, blanks⟩ := parseWritten_eq_ok.mp parsed
      exact (stood.unique stands).2 ▸ blanks
    · intro blanks
      exact ⟨value, parseWritten_eq_ok.mpr ⟨behind, stands, blanks⟩⟩

/-- What stands behind the settings of a text does not change them. -/
theorem ofText_append (settings : ofText text origin = .ok file) (rest : String) :
    ofText (text ++ rest) origin = .ok file := by
  obtain ⟨first, behind, rfl, -, again, -⟩ := exists_first settings
  exact String.append_assoc ▸ again (behind ++ rest)

/-- **The first value decides.** A text gives settings exactly if it begins with a value that gives
them; it is itself one value only where nothing but blanks follow, which is not asked for. -/
theorem ofText_eq_ok_iff_first :
    ofText text origin = .ok file ↔
      ∃ first rest, text = first ++ rest ∧ (∃ value, parseWritten first = .ok value) ∧
        ofText first origin = .ok file ∧
          ((∃ whole, parseWritten text = .ok whole) ↔
            ∀ character ∈ rest.toList, Cursor.isGap character = true) := by
  constructor
  · intro settings
    obtain ⟨first, rest, whole, value, again, blanks⟩ := exists_first settings
    have alone := again ""
    rw [String.append_empty] at alone
    exact ⟨first, rest, whole, value, alone, blanks⟩
  · rintro ⟨first, rest, rfl, -, settings, -⟩
    exact ofText_append settings rest

/-- A letter behind the settings is overlooked, though the text is not one value and is refused as a
document. -/
theorem ofText_overlooks :
    ofText "\x7b\x7d x" "g.json" = .ok {} ∧
      Json.parse "\x7b\x7d x" = .error ⟨.trailingCharacters, ⟨1, 4⟩⟩ ∧
      Options.select {} "\x7b\x7d x" = .error (.notJson ⟨.trailingCharacters, ⟨1, 4⟩⟩) := by
  decide +kernel

end SettingsFile

end ModelScribe

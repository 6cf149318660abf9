import Mathlib.Data.List.Nodup
import ModelScribe.Proofs.Settings.Reading

/-! # The members of a settings file

A settings file that is an object has members for some of six settings, none of them
twice, each with null or a value of its kind (`ModelScribe.SettingsFile.AreSettings`).
Every other object is refused. The settings are what the members write, in whatever
order they come (`ModelScribe.SettingsFile.ofText_object`).
-/

namespace ModelScribe

/-- A value names a choice, alone or as the only key of an object over null. -/
inductive Names (keyword : String) : Json → Prop
  | alone : Names keyword (.string keyword)
  | key : Names keyword (.object [(keyword, .null)])

/-- A setting of a file: its key, where the settings keep it, and the values that write it. -/
structure Setting (α : Type) where
  key : String
  kept : SettingsFile → Option α
  Writes : Json → α → Prop

namespace Setting

variable {α : Type}

/-- The values that may stand under the key of a setting. -/
def Allows (setting : Setting α) (value : Json) : Prop :=
  value = .null ∨ ∃ choice, setting.Writes value choice

/-- The settings have what the member for a setting writes, and nothing if there is none or it is
null. -/
def IsSet (setting : Setting α) (file : SettingsFile) (members : List (String × Json)) : Prop :=
  match setting.kept file with
  | none => ∀ value, (setting.key, value) ∈ members → value = .null
  | some choice => ∃ value, (setting.key, value) ∈ members ∧ setting.Writes value choice

/-- The kind of modules. -/
def convention : Setting Convention :=
  ⟨"module", SettingsFile.convention, fun value choice => Names choice.keyword value⟩

/-- The name of the root model. -/
def rootName : Setting String :=
  ⟨"root_name", SettingsFile.rootName, fun value name => value = .string name⟩

/-- The indentation. -/
def indent : Setting IndentStyle :=
  ⟨"indent", SettingsFile.indent, fun value choice => Names choice.keyword value⟩

/-- Whether there is a header. -/
def header : Setting Bool :=
  ⟨"header", SettingsFile.header, fun value flag => value = .bool flag⟩

/-- Whether the constructor of models is imported. -/
def imports : Setting Bool :=
  ⟨"import", SettingsFile.imports, fun value flag => value = .bool flag⟩

/-- Whether the text stays as it is assembled. -/
def raw : Setting Bool :=
  ⟨"raw", SettingsFile.raw, fun value flag => value = .bool flag⟩

end Setting

namespace SettingsFile

open Json

/-- The members that a settings file may have. -/
def Allows (key : String) (value : Json) : Prop :=
  match key with
  | "module" => Setting.convention.Allows value
  | "root_name" => Setting.rootName.Allows value
  | "indent" => Setting.indent.Allows value
  | "header" => Setting.header.Allows value
  | "import" => Setting.imports.Allows value
  | "raw" => Setting.raw.Allows value
  | _ => False

/-- Members as a settings file may have them, each key once. -/
structure AreSettings (members : List (String × Json)) : Prop where
  distinct : (members.map Prod.fst).Nodup
  allowed : ∀ member ∈ members, Allows member.1 member.2

/-- The settings are what members write. -/
structure Holds (file : SettingsFile) (members : List (String × Json)) : Prop where
  convention : Setting.convention.IsSet file members
  rootName : Setting.rootName.IsSet file members
  indent : Setting.indent.IsSet file members
  header : Setting.header.IsSet file members
  imports : Setting.imports.IsSet file members
  raw : Setting.raw.IsSet file members

end SettingsFile

section Choices

open Json

variable {α : Type} {all : List α} {keyword : α → String} {name : String} {choice : α}

/-- A keyword that stands for one choice is looked up to be that choice. -/
theorem lookup_keyword (apart : Function.Injective keyword) :
    (all.map fun choice => (keyword choice, choice)).lookup name = some choice ↔
      choice ∈ all ∧ keyword choice = name := by
  induction all with
  | nil => simp
  | cons first others ih =>
      rw [List.map_cons, List.lookup_cons]
      split
      · next same =>
          obtain rfl : name = keyword first := by simpa using same
          rw [Option.some_inj, apart.eq_iff, List.mem_cons]
          exact ⟨fun here => ⟨.inl here.symm, here.symm⟩, fun found => found.2.symm⟩
      · next other =>
          have differs : name ≠ keyword first := by simpa using other
          rw [ih, List.mem_cons]
          refine and_congr_left fun names => ⟨.inr, fun among => among.resolve_left ?_⟩
          rintro rfl
          exact differs names.symm

/-- A choice is meant by the values that name it. -/
theorem asChoice?_keyword (apart : Function.Injective keyword) (complete : choice ∈ all)
    {value : Json} :
    asChoice? (all.map fun choice => (keyword choice, choice)) value = some choice ↔
      Names (keyword choice) value := by
  rw [asChoice?_eq_some]
  constructor
  · rintro ⟨name, rfl | rfl, found⟩
    · exact ((lookup_keyword apart).mp found).2 ▸ .alone
    · exact ((lookup_keyword apart).mp found).2 ▸ .key
  · rintro (_ | _)
    · exact ⟨_, .inl rfl, (lookup_keyword apart).mpr ⟨complete, rfl⟩⟩
    · exact ⟨_, .inr rfl, (lookup_keyword apart).mpr ⟨complete, rfl⟩⟩

theorem Convention.keyword_injective : Function.Injective Convention.keyword := by
  intro first second same
  cases first <;> cases second <;> first | rfl | exact absurd same (by decide)

theorem IndentStyle.keyword_injective : Function.Injective IndentStyle.keyword := by
  intro first second same
  cases first <;> cases second <;> first | rfl | exact absurd same (by decide)

end Choices

namespace Setting

open Json SettingsFile

variable {α : Type} {setting : Setting α} {meaning : Json → Option α} {file other : SettingsFile}
  {members : List (String × Json)}

/-- A setting is filled in with what the values under its key mean, and by no other key. -/
structure IsFilled (setting : Setting α) (meaning : Json → Option α) : Prop where
  writes : ∀ {value choice}, setting.Writes value choice ↔ meaning value = some choice
  null : meaning .null = none
  own : ∃ set : SettingsFile → Option α → SettingsFile,
    (∀ file choice, setting.kept (set file choice) = choice) ∧
      ∀ file value, fill setting.key file value = (orNull? meaning value).map (set file)
  others : ∀ {key file value filled}, key ≠ setting.key → fill key file value = some filled →
    setting.kept filled = setting.kept file

/-- What a key changes in settings: the setting of that key. -/
inductive Changes (key : String) (file : SettingsFile) : SettingsFile → Prop
  | convention (own : key = convention.key) (setting : Option Convention) :
      Changes key file { file with convention := setting }
  | rootName (own : key = rootName.key) (setting : Option String) :
      Changes key file { file with rootName := setting }
  | indent (own : key = indent.key) (setting : Option IndentStyle) :
      Changes key file { file with indent := setting }
  | header (own : key = header.key) (setting : Option Bool) :
      Changes key file { file with header := setting }
  | imports (own : key = imports.key) (setting : Option Bool) :
      Changes key file { file with imports := setting }
  | raw (own : key = raw.key) (setting : Option Bool) :
      Changes key file { file with raw := setting }

variable {key : String} {value : Json} {filled : SettingsFile}

/-- Filling in a member changes no setting but that of its key. -/
theorem changes_of_fill (filledIn : fill key file value = some filled) :
    Changes key file filled := by
  unfold fill at filledIn
  split at filledIn
  case h_7 => cases filledIn
  all_goals obtain ⟨setting, -, rfl⟩ := Option.map_eq_some_iff.mp filledIn
  · exact .convention rfl setting
  · exact .rootName rfl setting
  · exact .indent rfl setting
  · exact .header rfl setting
  · exact .imports rfl setting
  · exact .raw rfl setting

/-- The member for the convention fills in the convention. -/
theorem isFilled_convention : convention.IsFilled
    (asChoice? (Convention.all.map fun choice => (choice.keyword, choice))) where
  writes {value choice} :=
    (asChoice?_keyword Convention.keyword_injective (by cases choice <;> decide)).symm
  null := rfl
  own := ⟨fun file setting => { file with convention := setting }, fun _ _ => rfl, fun _ _ => rfl⟩
  others apart filledIn := by
    cases changes_of_fill filledIn <;> first | rfl | exact absurd ‹_› apart

/-- The member for the root's name fills in that name. -/
theorem isFilled_rootName : rootName.IsFilled asString? where
  writes := asString?_eq_some.symm
  null := rfl
  own := ⟨fun file setting => { file with rootName := setting }, fun _ _ => rfl, fun _ _ => rfl⟩
  others apart filledIn := by
    cases changes_of_fill filledIn <;> first | rfl | exact absurd ‹_› apart

/-- The member for the indentation fills in the indentation. -/
theorem isFilled_indent : indent.IsFilled
    (asChoice? (IndentStyle.all.map fun choice => (choice.keyword, choice))) where
  writes {value choice} :=
    (asChoice?_keyword IndentStyle.keyword_injective (by cases choice <;> decide)).symm
  null := rfl
  own := ⟨fun file setting => { file with indent := setting }, fun _ _ => rfl, fun _ _ => rfl⟩
  others apart filledIn := by
    cases changes_of_fill filledIn <;> first | rfl | exact absurd ‹_› apart

/-- The member for the header fills in whether there is one. -/
theorem isFilled_header : header.IsFilled asBool? where
  writes := asBool?_eq_some.symm
  null := rfl
  own := ⟨fun file setting => { file with header := setting }, fun _ _ => rfl, fun _ _ => rfl⟩
  others apart filledIn := by
    cases changes_of_fill filledIn <;> first | rfl | exact absurd ‹_› apart

/-- The member for the import fills in whether there is one. -/
theorem isFilled_imports : imports.IsFilled asBool? where
  writes := asBool?_eq_some.symm
  null := rfl
  own := ⟨fun file setting => { file with imports := setting }, fun _ _ => rfl, fun _ _ => rfl⟩
  others apart filledIn := by
    cases changes_of_fill filledIn <;> first | rfl | exact absurd ‹_› apart

/-- The member for raw text fills in whether the text stays raw. -/
theorem isFilled_raw : raw.IsFilled asBool? where
  writes := asBool?_eq_some.symm
  null := rfl
  own := ⟨fun file setting => { file with raw := setting }, fun _ _ => rfl, fun _ _ => rfl⟩
  others apart filledIn := by
    cases changes_of_fill filledIn <;> first | rfl | exact absurd ‹_› apart

/-- A key that is not repeated has one value. -/
theorem value_unique {value again : Json} (distinct : (members.map Prod.fst).Nodup)
    (among : (key, value) ∈ members) (amongToo : (key, again) ∈ members) : value = again :=
  (Prod.mk.inj (List.inj_on_of_nodup_map distinct among amongToo rfl)).2

namespace IsFilled

variable (isFilled : setting.IsFilled meaning)

include isFilled

/-- What is filled in is what the member's value means. -/
theorem kept_of_fill (filledIn : fill setting.key file value = some filled) :
    orNull? meaning value = some (setting.kept filled) := by
  obtain ⟨set, keeps, fills⟩ := isFilled.own
  obtain ⟨choice, meant, rfl⟩ := Option.map_eq_some_iff.mp (fills file value ▸ filledIn)
  rw [keeps, meant]

/-- A setting can be filled in exactly from the values that it allows. -/
theorem exists_fill : (∃ filled, fill setting.key file value = some filled) ↔
    setting.Allows value := by
  obtain ⟨set, keeps, fills⟩ := isFilled.own
  simp only [fills, Option.map_eq_some_iff, Allows, isFilled.writes]
  by_cases null : value = .null
  · simp [null, orNull?]
  · simp [orNull?_of_ne null, null]

/-- Members with distinct keys write a setting, or none of them has its key. -/
theorem kept_of_fillAll (distinct : (members.map Prod.fst).Nodup)
    (filledIn : RecordShape.fillAll fill file members = some filled) :
    (∃ value, (setting.key, value) ∈ members ∧ orNull? meaning value = some (setting.kept filled)) ∨
      setting.key ∉ members.map Prod.fst ∧ setting.kept filled = setting.kept file := by
  induction members generalizing file with
  | nil =>
      obtain rfl := Option.some.inj filledIn
      exact .inr ⟨List.not_mem_nil, rfl⟩
  | cons member members ih =>
      obtain ⟨key, value⟩ := member
      obtain ⟨new, distinct⟩ := List.nodup_cons.mp distinct
      obtain ⟨between, here, filledIn⟩ := RecordShape.fillAll_cons_eq_some.mp filledIn
      rcases ih distinct filledIn with ⟨later, among, meant⟩ | ⟨absent, same⟩
      · exact .inl ⟨later, List.mem_cons_of_mem _ among, meant⟩
      · by_cases own : key = setting.key
        · subst own
          exact .inl ⟨value, List.mem_cons_self, same ▸ isFilled.kept_of_fill here⟩
        · refine .inr ⟨fun among => ?_, same.trans (isFilled.others own here)⟩
          rcases List.mem_cons.mp among with first | later
          · exact own first.symm
          · exact absent later

/-- A setting that was not set has what the members write. -/
theorem isSet (distinct : (members.map Prod.fst).Nodup) (unset : setting.kept file = none)
    (filledIn : RecordShape.fillAll fill file members = some filled) :
    setting.IsSet filled members := by
  unfold IsSet
  rcases isFilled.kept_of_fillAll distinct filledIn with ⟨value, among, meant⟩ | ⟨absent, same⟩
  · by_cases null : value = .null
    · subst null
      rw [← Option.some.inj meant]
      exact fun other again => value_unique distinct again among
    · rw [orNull?_of_ne null] at meant
      obtain ⟨choice, meant, same⟩ := Option.map_eq_some_iff.mp meant
      rw [← same]
      exact ⟨value, among, isFilled.writes.mpr meant⟩
  · rw [same, unset]
    exact fun value among => absurd (List.mem_map_of_mem among) absent

/-- The members determine what a setting is. -/
theorem unique (distinct : (members.map Prod.fst).Nodup) (first : setting.IsSet file members)
    (second : setting.IsSet other members) : setting.kept file = setting.kept other := by
  have apart : ∀ {value choice}, setting.Writes value choice → value ≠ .null := by
    rintro _ choice writes rfl
    simpa [isFilled.null] using isFilled.writes.mp writes
  unfold IsSet at first second
  cases kept : setting.kept file with
  | none =>
      cases keptOther : setting.kept other with
      | none => rfl
      | some choice =>
          rw [kept] at first
          rw [keptOther] at second
          obtain ⟨value, among, writes⟩ := second
          exact absurd (first value among) (apart writes)
  | some choice =>
      rw [kept] at first
      obtain ⟨value, among, writes⟩ := first
      cases keptOther : setting.kept other with
      | none =>
          rw [keptOther] at second
          exact absurd (second value among) (apart writes)
      | some otherChoice =>
          rw [keptOther] at second
          obtain ⟨again, amongOthers, writesOther⟩ := second
          obtain rfl := value_unique distinct among amongOthers
          rw [← isFilled.writes.mp writes, ← isFilled.writes.mp writesOther]

end IsFilled

/-- Whether a setting is set does not depend on the order of the members. -/
theorem IsSet.perm {others : List (String × Json)} (isSet : setting.IsSet file members)
    (same : members.Perm others) : setting.IsSet file others := by
  simpa only [IsSet, same.mem_iff] using isSet

end Setting

namespace SettingsFile

open Json Setting

variable {key : String} {value : Json} {file other : SettingsFile}
  {members others : List (String × Json)} {text origin : String}

/-- A value can be filled in exactly where it is allowed. -/
theorem exists_fill : (∃ filled, fill key file value = some filled) ↔ Allows key value := by
  unfold Allows
  split
  · exact isFilled_convention.exists_fill
  · exact isFilled_rootName.exists_fill
  · exact isFilled_indent.exists_fill
  · exact isFilled_header.exists_fill
  · exact isFilled_imports.exists_fill
  · exact isFilled_raw.exists_fill
  · next notModule notRootName notIndent notHeader notImport notRaw =>
      refine iff_of_false (fun ⟨filled, filledIn⟩ => ?_) id
      cases changes_of_fill filledIn with
      | convention own => exact notModule own
      | rootName own => exact notRootName own
      | indent own => exact notIndent own
      | header own => exact notHeader own
      | imports own => exact notImport own
      | raw own => exact notRaw own

/-- Members are filled in one after the other exactly if each of them is allowed. -/
theorem exists_fillAll :
    (∃ filled, RecordShape.fillAll fill file members = some filled) ↔
      ∀ member ∈ members, Allows member.1 member.2 := by
  induction members generalizing file with
  | nil => exact iff_of_true ⟨file, rfl⟩ (List.forall_mem_nil _)
  | cons member members ih =>
      rw [List.forall_mem_cons, ← exists_fill]
      constructor
      · rintro ⟨filled, filledIn⟩
        obtain ⟨between, here, others⟩ := RecordShape.fillAll_cons_eq_some.mp filledIn
        exact ⟨⟨between, here⟩, ih.mp ⟨filled, others⟩⟩
      · rintro ⟨⟨between, here⟩, others⟩
        obtain ⟨filled, filledIn⟩ := ih.mpr others
        exact ⟨filled, RecordShape.fillAll_cons_eq_some.mpr ⟨between, here, filledIn⟩⟩

/-- Only known keys are allowed. -/
theorem Allows.known (allows : Allows key value) : key ∈ shape.names := by
  have filled : ∃ filled, fill key {} value = some filled := exists_fill.mpr allows
  obtain ⟨filled, filledIn⟩ := filled
  cases changes_of_fill filledIn <;> subst key <;> decide

/-- The members of an object are filled into settings without any. -/
theorem meaning_object :
    meaning (.object members) = some file ↔ AreSettings members ∧
      RecordShape.fillAll fill {} members = some file := by
  have whole : meaning (.object members) =
      RecordShape.fillMembers fill shape.names [] {} members :=
    Option.bind_fun_some _
  rw [whole, RecordShape.fillMembers_eq_some]
  constructor
  · rintro ⟨⟨distinct, -⟩, filledIn⟩
    exact ⟨⟨distinct, exists_fillAll.mp ⟨file, filledIn⟩⟩, filledIn⟩
  · rintro ⟨⟨distinct, allowed⟩, filledIn⟩
    refine ⟨⟨distinct, fun member among => ⟨(allowed member among).known, ?_⟩⟩, filledIn⟩
    exact List.not_mem_nil

/-- An object means some settings exactly if its members are settings. -/
theorem exists_meaning : (∃ file, meaning (.object members) = some file) ↔ AreSettings members := by
  constructor
  · rintro ⟨file, meant⟩
    exact (meaning_object.mp meant).1
  · intro areSettings
    obtain ⟨file, filledIn⟩ := exists_fillAll.mpr areSettings.allowed
    exact ⟨file, meaning_object.mpr ⟨areSettings, filledIn⟩⟩

/-- The settings that an object means are those that its members write. -/
theorem holds_of_meaning (meant : meaning (.object members) = some file) : file.Holds members := by
  obtain ⟨⟨distinct, -⟩, filledIn⟩ := meaning_object.mp meant
  exact
    { convention := isFilled_convention.isSet distinct rfl filledIn
      rootName := isFilled_rootName.isSet distinct rfl filledIn
      indent := isFilled_indent.isSet distinct rfl filledIn
      header := isFilled_header.isSet distinct rfl filledIn
      imports := isFilled_imports.isSet distinct rfl filledIn
      raw := isFilled_raw.isSet distinct rfl filledIn }

/-- Members with distinct keys write one choice of settings only. -/
theorem Holds.unique (distinct : (members.map Prod.fst).Nodup) (first : file.Holds members)
    (second : other.Holds members) : file = other := by
  have convention := isFilled_convention.unique distinct first.convention second.convention
  have rootName := isFilled_rootName.unique distinct first.rootName second.rootName
  have indent := isFilled_indent.unique distinct first.indent second.indent
  have header := isFilled_header.unique distinct first.header second.header
  have imports := isFilled_imports.unique distinct first.imports second.imports
  have raw := isFilled_raw.unique distinct first.raw second.raw
  cases file
  cases other
  rw [mk.injEq]
  exact ⟨convention, rootName, indent, header, imports, raw⟩

/-- Whether members are settings does not depend on their order. -/
theorem AreSettings.perm (areSettings : AreSettings members) (same : members.Perm others) :
    AreSettings others where
  distinct := (same.map Prod.fst).nodup_iff.mp areSettings.distinct
  allowed member among := areSettings.allowed member (same.mem_iff.mpr among)

/-- The settings that members write do not depend on the order of the members. -/
theorem Holds.perm (holds : file.Holds members) (same : members.Perm others) :
    file.Holds others where
  convention := holds.convention.perm same
  rootName := holds.rootName.perm same
  indent := holds.indent.perm same
  header := holds.header.perm same
  imports := holds.imports.perm same
  raw := holds.raw.perm same

/-- **Settings files.** A text that is an object gives settings exactly if its members are settings,
each key once, and gives what they write; another object is refused under the name of the file. The
order of the members does not matter. -/
theorem ofText_object (written : parseWritten text = .ok (.object members)) (origin : String) :
    ((∃ file, ofText text origin = .ok file) ↔ AreSettings members) ∧
      (∀ file, ofText text origin = .ok file → file.Holds members) ∧
      (¬ AreSettings members →
        ∃ message, ofText text origin = .error (.badSettings origin message)) ∧
      ∀ again others, parseWritten again = .ok (.object others) → members.Perm others →
        ∀ file, ofText text origin = .ok file → ofText again origin = .ok file := by
  have refused : ¬ AreSettings members →
      ∃ message, ofText text origin = .error (.badSettings origin message) := by
    intro others
    rw [ofText]
    cases decoded : decode text with
    | error problem => exact ⟨problem.message, rfl⟩
    | ok file =>
        have settings : ofText text origin = .ok file := by
          rw [ofText, decoded]
          rfl
        exact absurd (exists_meaning.mp ⟨file, (ofText_of_written written).mp settings⟩) others
  refine ⟨?_, fun file settings => ?_, refused,
    fun again others writtenAgain same file settings => ?_⟩
  · simp only [ofText_of_written written, exists_meaning]
  · exact holds_of_meaning ((ofText_of_written written).mp settings)
  · have meant := (ofText_of_written written).mp settings
    have areSettings := exists_meaning.mp ⟨file, meant⟩
    obtain ⟨reordered, meantAgain⟩ := exists_meaning.mpr (areSettings.perm same)
    have alike : file = reordered := (holds_of_meaning meant).unique areSettings.distinct
      ((holds_of_meaning meantAgain).perm same.symm)
    exact (ofText_of_written writtenAgain).mpr (alike ▸ meantAgain)

/-- Three settings are given, one of them null and one named by the key of an object; a key that
comes twice is refused, though it is null at first. -/
theorem ofText_object_keyed :
    let text :=
      "\x7b \"indent\": \x7b\"4\": null\x7d, \"root_name\": null,\n\"module\": \"cjs\"\x7d"
    let members := [("indent", Json.object [("4", .null)]), ("root_name", .null),
      ("module", .string "cjs")]
    (parseWritten text = .ok (.object members) ∧
        ∃ file, ofText text "gen.json" = .ok file ∧ file.Holds members) ∧
      ∃ message, ofText "\x7b\"raw\": null, \"raw\": true\x7d" "gen.json" =
        .error (.badSettings "gen.json" message) := by
  intro text members
  have written : parseWritten text = .ok (.object members) := by decide +kernel
  have areSettings : AreSettings members :=
    { distinct := by decide
      allowed := by
        simp only [members, List.forall_mem_cons]
        exact ⟨.inr ⟨.fourSpaces, .key⟩, .inl rfl, .inr ⟨.cjs, .alone⟩, List.forall_mem_nil _⟩ }
  obtain ⟨accepted, holds, -⟩ := ofText_object written "gen.json"
  obtain ⟨file, settings⟩ := accepted.mpr areSettings
  have twice : parseWritten "\x7b\"raw\": null, \"raw\": true\x7d" =
      .ok (.object [("raw", .null), ("raw", .bool true)]) := by decide +kernel
  refine ⟨⟨written, file, settings, holds file settings⟩, ?_⟩
  exact (ofText_object twice "gen.json").2.2.1 fun repeated => absurd repeated.distinct (by decide)

end SettingsFile

end ModelScribe

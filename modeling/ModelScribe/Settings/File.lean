import ModelScribe.Decode.Record
import ModelScribe.Layout.Options
import ModelScribe.Module.Convention

/-! # Settings files

A settings file is a JSON object with at most six keys, or the list of their six values. What is
left out or null is not set.

* `SettingsFile`: what a file sets.
* `SettingsFile.decode`: the settings that a text starts with.
* `LayoutOptions.decoder`, `IndentStyle.decoder`, `Convention.decoder`: the parts by themselves.
-/

namespace ModelScribe

/-- Reads a convention by its name. -/
def Convention.decoder : Decoder Convention :=
  .variant (all.map fun convention => (convention.keyword, convention))

/-- Reads a choice of indentation by its name. -/
def IndentStyle.decoder : Decoder IndentStyle :=
  .variant (all.map fun style => (style.keyword, style))

/-- Layout options, of which some may not have been read yet. -/
structure LayoutDraft where
  tabIndent : Option Bool := none
  width : Option Nat := none

/-- The fields of layout options; both are needed, and other keys do not matter. -/
def LayoutOptions.shape : RecordShape LayoutDraft LayoutOptions where
  name := "FormatOptions"
  slots :=
    [⟨"tab_indent", fun draft cursor => do
        let (value, cursor) ← Decoder.boolean cursor
        return ({ draft with tabIndent := some value }, cursor)⟩,
      ⟨"width", fun draft cursor => do
        let (value, cursor) ← Decoder.size cursor
        return ({ draft with width := some value }, cursor)⟩]
  closed := false
  start := {}
  finish := fun draft =>
    match draft.tabIndent, draft.width with
    | none, _ => .error "tab_indent"
    | _, none => .error "width"
    | some tabIndent, some width => .ok ⟨tabIndent, width⟩

/-- Reads layout options. -/
def LayoutOptions.decoder : Decoder LayoutOptions := .record shape

/-- What a settings file sets. -/
structure SettingsFile where
  convention : Option Convention := none
  rootName : Option String := none
  indent : Option IndentStyle := none
  header : Option Bool := none
  imports : Option Bool := none
  raw : Option Bool := none
  deriving DecidableEq

namespace SettingsFile

/-- A key of a settings file with a value or null. -/
def slot {α : Type} (name : String) (decoder : Decoder α)
    (set : SettingsFile → Option α → SettingsFile) : Slot SettingsFile :=
  ⟨name, fun file cursor => do
    let (value, cursor) ← Decoder.nullable decoder cursor
    return (set file value, cursor)⟩

/-- The keys of a settings file; no other key may come. -/
def shape : RecordShape SettingsFile SettingsFile where
  name := "GeneratorConfig"
  slots :=
    [slot "module" Convention.decoder fun file value => { file with convention := value },
      slot "root_name" Decoder.string fun file value => { file with rootName := value },
      slot "indent" IndentStyle.decoder fun file value => { file with indent := value },
      slot "header" Decoder.boolean fun file value => { file with header := value },
      slot "import" Decoder.boolean fun file value => { file with imports := value },
      slot "raw" Decoder.boolean fun file value => { file with raw := value }]
  closed := true
  start := {}
  finish := .ok

/-- Reads a settings file. -/
def decoder : Decoder SettingsFile := .record shape

/-- The settings that a text starts with. -/
def decode (text : String) : Except DecodeError SettingsFile :=
  decoder.run text

end SettingsFile

end ModelScribe

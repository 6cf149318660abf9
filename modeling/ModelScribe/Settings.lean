import ModelScribe.CommandLine.Options
import ModelScribe.Failure
import ModelScribe.Json.Pointer
import ModelScribe.Module.Plan
import ModelScribe.Settings.File

/-! # Settings

* `Settings`: how a module is made, everything settled.
* `Settings.resolve`: options win over the settings file, and that over the defaults.
* `Settings.render`: the module of a document.
* `Options.select`: the document in a source text.
-/

namespace ModelScribe

/-- How a module is made. -/
structure Settings where
  convention : Convention
  rootName : String
  /-- The layout, or none where the assembled text stays as it is. -/
  layout : Option LayoutOptions
  header : Bool
  imports : Bool
  deriving DecidableEq

namespace Settings

/-- The name of the root model where none is given. -/
def defaultRootName : String := "jsonModel"

/-- The settings of a run: each option given wins over what the file sets, and that over the
default. -/
def resolve (options : Options) (file : SettingsFile) : Settings where
  convention := (options.convention.or file.convention).getD .esm
  rootName := (options.rootName.or file.rootName).getD defaultRootName
  layout :=
    if options.raw || file.raw.getD false then none
    else some ((options.indent.or file.indent).getD .tabs).options
  header := !options.noHeader && file.header.getD true
  imports := !options.noImport && file.imports.getD true

/-- The plan of a module without models. -/
def plan (settings : Settings) (stamp : Stamp) : ModulePlan where
  convention := settings.convention
  header := if settings.header then some stamp else none
  imports := settings.imports
  layout := settings.layout

/-- The plan of the module of a document, which must be an object. -/
def planFor (settings : Settings) (stamp : Stamp) (document : Json) : Except Failure ModulePlan :=
  match document with
  | .object _ => .ok ((settings.plan stamp).define settings.rootName document)
  | other => .error (.rootNotObject other.kindName)

/-- The module of a document, which must be an object. -/
def render (settings : Settings) (stamp : Stamp) (document : Json) : Except Failure String :=
  (settings.planFor stamp document).map ModulePlan.execute

end Settings

namespace SettingsFile

/-- The settings of a file's text. -/
def ofText (text origin : String) : Except Failure SettingsFile :=
  (decode text).mapError fun error => .badSettings origin error.message

end SettingsFile

namespace Options

variable [FilterLibrary]

/-- The part of a document that the options point to. -/
def pointed (options : Options) (document : Json) : Except Failure Json :=
  match options.pointer with
  | none => .ok document
  | some pointer =>
      match document.pointed? pointer with
      | some part => .ok part
      | none => .error (.pointsNowhere pointer)

/-- The document that the options filter out of another. -/
def filtered (options : Options) (document : Json) : Except Failure Json :=
  match options.filter with
  | none => .ok document
  | some filter => (Filter.firstOf filter document).mapError .ofFilter

/-- The document in a source text: the part that is pointed to, filtered. -/
def select (options : Options) (source : String) : Except Failure Json := do
  let document ← (Json.parse source).mapError Failure.notJson
  options.filtered (← options.pointed document)

end Options

end ModelScribe

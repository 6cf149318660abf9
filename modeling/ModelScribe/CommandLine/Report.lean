import ModelScribe.Settings

/-! # Reports

The options and settings of a run, one field a line.

* `Report`: a tree of named fields.
* `Report.lines`: its lines.
* `Options.report`, `Settings.report`: the reports of a dry run.
-/

namespace ModelScribe

/-- A tree of named fields. -/
inductive Report
  | plain (text : String)
  /-- A value that is there. -/
  | given (value : Report)
  | record (name : String) (fields : List (String × Report))

namespace Report

/-- A line one level deeper. -/
def indented (line : String) : String := "    " ++ line

/-- Lines with a comma behind the last. -/
def closed : List String → List String
  | [] => []
  | [line] => [line ++ ","]
  | line :: next :: lines => line :: closed (next :: lines)

/-- Lines with a text before the first. -/
def labelled (label : String) : List String → List String
  | [] => []
  | line :: lines => (label ++ line) :: lines

mutual

/-- The lines of a report. -/
def lines : Report → List String
  | plain text => [text]
  | given value => "Some(" :: (closed value.lines).map indented ++ [")"]
  | record name fields => (name ++ " \x7b") :: fieldLines fields ++ ["\x7d"]

/-- The lines of the fields of a record. -/
def fieldLines : List (String × Report) → List String
  | [] => []
  | (name, value) :: fields =>
      (closed (labelled (name ++ ": ") value.lines)).map indented ++ fieldLines fields

end

/-- The text of a report. -/
def text (report : Report) : String := String.intercalate "\n" report.lines

/-- A field that is there or not. -/
def optional {α : Type} (report : α → Report) : Option α → Report
  | none => plain "None"
  | some value => given (report value)

/-- A yes or a no. -/
def ofBool (value : Bool) : Report := plain (toString value)

/-- A text between quotes. -/
def ofText (value : String) : Report := plain (Text.quoted value)

end Report

/-- The report of layout options. -/
def LayoutOptions.report (options : LayoutOptions) : Report :=
  .record "FormatOptions"
    [("tab_indent", .ofBool options.tabIndent), ("width", .plain (toString options.width))]

/-- The report of options. -/
def Options.report (options : Options) : Report :=
  .record "CommandLineInterface"
    [("input_settings", .record "InputSettings"
        [("input", .optional .ofText options.input),
          ("json_pointer", .optional .ofText options.pointer),
          ("jq_expr", .optional .ofText options.filter)]),
      ("output_settings", .record "OutputSettings"
        [("module", .optional (fun convention => .plain convention.label) options.convention),
          ("root_name", .optional .ofText options.rootName),
          ("indent", .optional (fun style => .plain style.label) options.indent),
          ("raw", .ofBool options.raw),
          ("no_header", .ofBool options.noHeader),
          ("no_import", .ofBool options.noImport),
          ("out", .optional .ofText options.output)]),
      ("config", .optional .ofText options.settingsFile),
      ("no_op", .ofBool options.dryRun)]

/-- The report of settings. -/
def Settings.report (settings : Settings) : Report :=
  .record "Settings"
    [("module", .plain settings.convention.label),
      ("root_name", .ofText settings.rootName),
      ("format", .optional LayoutOptions.report settings.layout),
      ("header", .ofBool settings.header),
      ("import", .ofBool settings.imports)]

/-- What a dry run reports. -/
def dryRunText (options : Options) (settings : Settings) : String :=
  options.report.text ++ "\n" ++ settings.report.text ++ "\n"

end ModelScribe

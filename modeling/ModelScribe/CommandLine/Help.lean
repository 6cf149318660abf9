import ModelScribe.CommandLine.Options

/-! # Help

What a command line is told that leads to no run.

* `Help.text`: the answer to a question for help.
* `UsageStop.text`: the words about what is wrong with a command line.
-/

namespace ModelScribe

namespace Help

/-- The name and version of the program. -/
def version : String := "jsonmodel-gen 0.1.0\n"

/-- How the program is called. -/
def usage : String := "Usage: jsonmodel-gen [OPTIONS]\n"

/-- The arguments, each as it is written and with what it is for. -/
def arguments : List (String × String) :=
  [("-i, --input <INPUT>", "JSON file to read, or '-' for stdin (stdin if omitted)"),
    ("    --json-pointer <JSON_POINTER>",
      "JSON Pointer selecting the root object (e.g. /data/items/0)"),
    ("    --jq <JQ_EXPR>", "jq filter selecting the root object; its first output is used"),
    ("    --module <MODULE>",
      "module convention of the emitted source [default: esm] [possible values: cjs, esm]"),
    ("    --root-name <ROOT_NAME>", "name of the root model [default: jsonModel]"),
    ("    --indent <INDENT>", "indentation [default: tabs] [possible values: tabs, 2, 4]"),
    ("    --raw", "skip the formatter and print the assembled text as-is"),
    ("    --no-header", "omit the copyright/timestamp header comment"),
    ("    --no-import", "omit the JsonModel import statement"),
    ("-o, --out <OUT>", "output file (stdout if omitted)"),
    ("    --config <CONFIG>", "JSON settings file; explicit flags override it"),
    ("    --no-op", "debugging: print the resolved settings and exit"),
    ("-h, --help", "Print help"),
    ("-V, --version", "Print version")]

/-- A text with blanks behind it up to a width. -/
def padded (width : Nat) (text : String) : String :=
  text ++ String.ofList (List.replicate (width - text.length) ' ')

/-- The lines about the arguments, what they are for in one column. -/
def argumentLines : List String :=
  let width := (arguments.map (·.1.length)).foldl max 0
  arguments.map fun (argument, purpose) => "  " ++ padded width argument ++ "  " ++ purpose ++ "\n"

/-- The answer to a question for help. -/
def text : String :=
  "infer nested models from a JSON object and emit JsonModel.define source\n\n" ++ usage ++
    "\nOptions:\n" ++ String.join argumentLines

end Help

/-- The words about what is wrong with a command line. -/
def UsageStop.text (stop : UsageStop) : String :=
  "error: " ++ stop.kind ++ "\n\n" ++ Help.usage ++ "\nFor more information, try '--help'.\n"

end ModelScribe

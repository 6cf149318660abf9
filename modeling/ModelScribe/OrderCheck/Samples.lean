import ModelScribe.OrderCheck

/-! # Samples for the order check

A few documents whose modules are made and checked in both conventions.
-/

namespace ModelScribe.OrderCheck

/-- A whole number as JSON. -/
def whole (value : Int) : Json := .number (.integer value)

/-- The documents, each under a label. -/
def samples : List (String × Json) :=
  [("flat", .object
      [("id", whole 1), ("name", .string "Acme"), ("active", .bool true),
        ("created", .string "2024-05-01 09:30:00")]),
    ("empty", .object []),
    ("nulls-and-empties", .object
      [("gone", .null), ("tags", .array []), ("pads", .array [.null, whole 1])]),
    ("nested", .object
      [("store", .object
          [("location", .object
              [("lat", .number (.float 37.42)), ("lng", .number (.float (-122.08)))]),
            ("categories", .array [.string "hardware", .string "tools"])]),
        ("reviews", .array
          [.object [("author", .object [("name", .string "A")]), ("stars", whole 4)]])]),
    ("matrix", .object
      [("grid", .array [.array [.object [("cell", whole 0)]]]),
        ("rows", .array [.array [whole 1, whole 2], .array [whole 3]])]),
    ("collision", .object
      [("left", .object [("item", .object [("a", whole 1)])]),
        ("right", .object [("item", .object [("b", .string "x")])])])]

/-- What the check of one module says, and whether it passes. -/
structure Verdict where
  text : String
  passed : Bool

/-- The name of the root model of the samples. -/
def sampleRoot : String := "Root"

/-- The verdict on a document in a convention. -/
def verdict (label : String) (document : Json) (convention : Convention) : Verdict :=
  let text := ((ModulePlan.new convention).withImport.define sampleRoot document).execute
  let name := label ++ " (" ++ convention.label ++ "): "
  match check text with
  | .ok count => ⟨"✅ " ++ name ++ toString count ++ " declarations\n", true⟩
  | .error model =>
      let complaint := "`" ++ model ++ "` referenced before declaration\n"
      ⟨"❌ " ++ name ++ complaint ++ text ++ "\n", false⟩

/-- The verdicts on all samples. -/
def verdicts : List Verdict :=
  samples.flatMap fun (label, document) => Convention.all.map (verdict label document)

/-- What checking all samples reports. -/
def report : String := String.join (verdicts.map Verdict.text)

/-- The exit code of checking all samples. -/
def exitCode : Nat := if verdicts.all Verdict.passed then 0 else 1

end ModelScribe.OrderCheck

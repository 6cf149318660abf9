import ModelScribe.Proofs.Json.PointerSelection
import ModelScribe.Proofs.Json.Reparsing

/-! # The filter that changes nothing

The filter `.` has one output, which is its input. Yet what a library gives is not this value but
its text, and what is taken is what the text is parsed to (`ModelScribe.Filter.outputs_identity`),
so that a printable document is its own first output (`ModelScribe.Filter.firstOf_identity`). With
integers for its numbers, every parsed document is selected and rendered with this filter as it is
without one (`ModelScribe.Options.select_identity`).
-/

namespace ModelScribe

namespace Filter

variable {document : Json}

/-- The output of the identity is its input. -/
theorem run_identity (depth : Nat) (place : Place) (value : Value) :
    run (depth + 1) place .identity (.made value) = .single (.ok (.made value)) := by
  rw [run]
  rfl

/-- A dot is read as the identity. -/
theorem load_identity : load "." = .ok { code := ".", filter := .identity } := by
  have scanned : Token.scan "." = some [.symbol "."] := by decide +kernel
  have read : Expr.read "." = some .identity := by
    rw [Expr.read, scanned]
    rfl
  rw [load, read]

/-- The output of a filter that has just one is what the text of this output is parsed to. -/
theorem outputs_of_single [library : FilterLibrary] {filter text : String}
    {source : library.Source} {program : library.Program}
    (loaded : library.load filter = .ok source) (compiled : library.compile source = .ok program)
    (ran : library.run program document = .single (.ok text)) :
    outputs filter document =
      ((Json.parse text).mapError .unreadable).map fun only => [only] := by
  rw [outputs, loaded]
  show Except.mapError _ (library.compile source) >>= _ = _
  rw [compiled]
  show documents [] (library.run program document) = _
  rw [ran]
  show (Except.mapError FilterProblem.unreadable (Json.parse text) >>= fun only => .ok [only]) = _
  cases Json.parse text <;> rfl

/-- The document is printed and parsed once. -/
theorem outputs_identity (document : Json) :
    outputs "." document =
      ((Json.parse (Value.ofJson document).text).mapError .unreadable).map fun same => [same] := by
  refine outputs_of_single load_identity rfl ?_
  show (run greatestDepth ⟨prelude, 0⟩ .identity (.made (.ofJson document))).map outputText = _
  rw [greatestDepth, run_identity]
  rfl

/-- A printable document is its own first output. -/
theorem firstOf_identity (printable : document.Printable) :
    firstOf "." document = .ok document := by
  rw [firstOf, outputs_identity, printable.parse_text]
  rfl

end Filter

namespace Options

variable {options : Options} {source : String} {document : Json}

/-- A printable document is filtered to itself. -/
theorem filtered_identity (filters : options.filter = some ".") (printable : document.Printable) :
    options.filtered document = .ok document := by
  rw [filtered, filters]
  dsimp only
  rw [Filter.firstOf_identity printable]
  rfl

/-- What the options point to in a printable document is printable. -/
theorem printable_of_pointed {part : Json} (printable : document.Printable)
    (points : options.pointed document = .ok part) : part.Printable := by
  rw [pointed] at points
  split at points
  · exact Except.ok.inj points ▸ printable
  · split at points
    · next found => exact printable.of_pointed? (Except.ok.inj points ▸ found)
    · cases points

theorem select_filtered_identity (parsed : Json.parse source = .ok document)
    (integral : document.IsIntegral) (filters : options.filter = some ".") :
    options.select source = options.pointed document := by
  have printable := Json.Printable.of_parse parsed integral
  rw [select, parsed]
  show options.pointed document >>= options.filtered = _
  cases points : options.pointed document with
  | error failure => rfl
  | ok part => exact filtered_identity filters (printable_of_pointed printable points)

/-- **The filter that changes nothing.** A parsed document whose numbers are integers of 64 bits is
its own first output, with all its strings and with its keys in their order. So whatever else the
options ask for, the same value is selected and the same module rendered as without a filter. -/
theorem select_identity (parsed : Json.parse source = .ok document)
    (integral : document.IsIntegral) :
    Filter.firstOf "." document = .ok document ∧ ∀ options : Options,
      let passing := { options with filter := some "." }
      let unfiltered := { options with filter := none }
      passing.select source = unfiltered.select source ∧
        ∀ (settings : Settings) (stamp : Stamp),
          passing.select source >>= settings.render stamp =
            unfiltered.select source >>= settings.render stamp := by
  refine ⟨Filter.firstOf_identity (.of_parse parsed integral), fun options => ?_⟩
  intro passing unfiltered
  have same : passing.select source = unfiltered.select source :=
    calc
      passing.select source = passing.pointed document :=
        select_filtered_identity parsed integral rfl
      _ = unfiltered.pointed document := rfl
      _ = unfiltered.select source := (select_unfiltered parsed rfl).symm
  refine ⟨same, fun settings stamp => ?_⟩
  rw [same]

/-- A key that is repeated behind another, the greatest and the least integer, and strings with
characters that are escaped in either text or in one of them. -/
theorem select_identity_escaped :
    let source := "\x7b\"z\": 1,
      \"a\\\"\": [18446744073709551615, -9223372036854775808, [\x7b\x7d]],
      \"\": \"\\\\ \\/ \\b \\u0001 \\u007f \\ud83d\\ude00 é\",
      \"z\": \x7b\"on\": null\x7d\x7d"
    let part := Json.object [("on", .null)]
    let items := [.number (.integer 18446744073709551615),
      .number (.integer (-9223372036854775808)), .array [.object []]]
    let document := Json.object [("z", part), ("a\"", .array items),
      ("", .string "\\ / \x08 \x01 \x7f 😀 é")]
    let options : Options := { pointer := some "/z" }
    Json.parse source = .ok document ∧ document.IsIntegral ∧
      Filter.firstOf "." document = .ok document ∧
      { options with filter := some "." }.select source = .ok part := by
  intro source part items document options
  have parsed : Json.parse source = .ok document := by decide +kernel
  have numbers : ∀ item ∈ items, item.IsIntegral := by
    refine List.forall_mem_cons.mpr ⟨.integer (by decide) (by decide), ?_⟩
    refine List.forall_mem_cons.mpr ⟨.integer (by decide) (by decide), ?_⟩
    refine List.forall_mem_singleton.mpr (.array (List.forall_mem_singleton.mpr (.object ?_)))
    exact fun member among => absurd among List.not_mem_nil
  have integral : document.IsIntegral := by
    refine .object (List.forall_mem_cons.mpr ⟨?_, List.forall_mem_cons.mpr ⟨.array numbers, ?_⟩⟩)
    · exact .object (List.forall_mem_singleton.mpr .null)
    · exact List.forall_mem_singleton.mpr (.string _)
  obtain ⟨same, everywhere⟩ := select_identity parsed integral
  have unfiltered : options.select source = .ok part :=
    (select_unfiltered parsed rfl).trans (by decide +kernel)
  exact ⟨parsed, integral, same, (everywhere options).1.trans unfiltered⟩

end Options

end ModelScribe

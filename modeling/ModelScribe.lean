import ModelScribe.CommandLine.Help
import ModelScribe.CommandLine.Host
import ModelScribe.CommandLine.Options
import ModelScribe.CommandLine.Reading
import ModelScribe.CommandLine.Report
import ModelScribe.CommandLine.Run
import ModelScribe.Decimal.Shortest
import ModelScribe.Declaration
import ModelScribe.Decode.Problem
import ModelScribe.Decode.Record
import ModelScribe.Decode.Scalar
import ModelScribe.Failure
import ModelScribe.FieldType
import ModelScribe.Files.Path
import ModelScribe.Files.Problem
import ModelScribe.Files.Tree
import ModelScribe.Filter
import ModelScribe.Filter.Access
import ModelScribe.Filter.Arithmetic
import ModelScribe.Filter.Evaluation
import ModelScribe.Filter.Expression
import ModelScribe.Filter.Fault
import ModelScribe.Filter.Flow
import ModelScribe.Filter.Library
import ModelScribe.Filter.Native
import ModelScribe.Filter.Native.Collection
import ModelScribe.Filter.Native.Text
import ModelScribe.Filter.Native.Written
import ModelScribe.Filter.Prelude
import ModelScribe.Filter.Reader
import ModelScribe.Filter.Scope
import ModelScribe.Filter.Token
import ModelScribe.Filter.Value
import ModelScribe.Inference.DateTime
import ModelScribe.Inference.Sample
import ModelScribe.Json.Basic
import ModelScribe.Json.Cursor
import ModelScribe.Json.Number
import ModelScribe.Json.Pointer
import ModelScribe.Json.Printer
import ModelScribe.Json.Reader
import ModelScribe.Json.Skip
import ModelScribe.Json.Text
import ModelScribe.Layout
import ModelScribe.Layout.Draft
import ModelScribe.Layout.Options
import ModelScribe.Layout.Piece
import ModelScribe.Layout.Scan
import ModelScribe.Main
import ModelScribe.Module.Assembly
import ModelScribe.Module.Convention
import ModelScribe.Module.Plan
import ModelScribe.OrderCheck
import ModelScribe.OrderCheck.Samples
import ModelScribe.Proofs.CommandLine.Delivery
import ModelScribe.Proofs.CommandLine.Effects
import ModelScribe.Proofs.CommandLine.FirstFailure
import ModelScribe.Proofs.CommandLine.Phases
import ModelScribe.Proofs.CommandLine.Stages
import ModelScribe.Proofs.Decode.Meaning
import ModelScribe.Proofs.Decode.RecordMeaning
import ModelScribe.Proofs.Files.Changes
import ModelScribe.Proofs.Files.Entries
import ModelScribe.Proofs.Files.Places
import ModelScribe.Proofs.Filter.Identity
import ModelScribe.Proofs.Json.Grammar
import ModelScribe.Proofs.Json.Locality
import ModelScribe.Proofs.Json.MergedKeys
import ModelScribe.Proofs.Json.Numbers
import ModelScribe.Proofs.Json.PointerSelection
import ModelScribe.Proofs.Json.Printing
import ModelScribe.Proofs.Json.Reading
import ModelScribe.Proofs.Json.Reparsing
import ModelScribe.Proofs.Json.Spelling
import ModelScribe.Proofs.Json.Strings
import ModelScribe.Proofs.Layout.BlankLines
import ModelScribe.Proofs.Layout.Closing
import ModelScribe.Proofs.Layout.Comment
import ModelScribe.Proofs.Layout.Conservation
import ModelScribe.Proofs.Layout.Context
import ModelScribe.Proofs.Layout.Indentation
import ModelScribe.Proofs.Layout.LineBreaks
import ModelScribe.Proofs.Layout.LineFeeds
import ModelScribe.Proofs.Layout.Recutting
import ModelScribe.Proofs.Layout.Relayout
import ModelScribe.Proofs.Layout.Rendering
import ModelScribe.Proofs.Layout.Scanning
import ModelScribe.Proofs.Layout.Spacing
import ModelScribe.Proofs.Layout.Spot
import ModelScribe.Proofs.Layout.Standing
import ModelScribe.Proofs.Layout.Stretch
import ModelScribe.Proofs.Layout.Token
import ModelScribe.Proofs.Layout.TokenStream
import ModelScribe.Proofs.Layout.Writing
import ModelScribe.Proofs.Module.Bindings
import ModelScribe.Proofs.Module.DeclarationBlock
import ModelScribe.Proofs.Module.DeclarationText
import ModelScribe.Proofs.Module.HeaderBlock
import ModelScribe.Proofs.Module.PartNames
import ModelScribe.Proofs.Module.PlanCalls
import ModelScribe.Proofs.Module.Printed
import ModelScribe.Proofs.Module.PrintedModule
import ModelScribe.Proofs.Module.Separation
import ModelScribe.Proofs.OrderCheck.Acceptance
import ModelScribe.Proofs.OrderCheck.LineReading
import ModelScribe.Proofs.OrderCheck.Verdicts
import ModelScribe.Proofs.Registry.Appending
import ModelScribe.Proofs.Registry.Binding
import ModelScribe.Proofs.Registry.DeclarationOrder
import ModelScribe.Proofs.Registry.EventLog
import ModelScribe.Proofs.Registry.FieldCoverage
import ModelScribe.Proofs.Registry.InnermostItem
import ModelScribe.Proofs.Registry.ObjectPaths
import ModelScribe.Proofs.Registry.PostOrder
import ModelScribe.Proofs.Registry.Shape
import ModelScribe.Proofs.Settings.FirstValue
import ModelScribe.Proofs.Settings.Members
import ModelScribe.Proofs.Settings.Reading
import ModelScribe.Proofs.Steps
import ModelScribe.Proofs.Text.BoundNames
import ModelScribe.Proofs.Text.Ink
import ModelScribe.Proofs.Text.Lines
import ModelScribe.Registry
import ModelScribe.Settings
import ModelScribe.Settings.File
import ModelScribe.Stamp
import ModelScribe.Text.Blank
import ModelScribe.Text.Invisible
import ModelScribe.Text.Quoted
import ModelScribe.Text.Word

import DataBinding.CommandLine.Arguments
import DataBinding.CommandLine.Run
import DataBinding.CommandLine.Task
import DataBinding.Element.Attributes
import DataBinding.Element.Basic
import DataBinding.Element.Markup
import DataBinding.Fields
import DataBinding.Instruction.Action
import DataBinding.Instruction.Basic
import DataBinding.Instruction.Command
import DataBinding.Instruction.Evaluation
import DataBinding.Instruction.Formula
import DataBinding.Instruction.Lexeme
import DataBinding.Instruction.ParseError
import DataBinding.Instruction.Prepare
import DataBinding.Instruction.Report
import DataBinding.Instruction.Token
import DataBinding.Json.Document
import DataBinding.Json.Lexer
import DataBinding.Json.Numeral
import DataBinding.Json.Text
import DataBinding.Main
import DataBinding.Number.Basic
import DataBinding.Number.Decimal
import DataBinding.Number.Layout
import DataBinding.Number.Shortest
import DataBinding.Projection.Dispatch
import DataBinding.Projection.Immediate
import DataBinding.Projection.Placeholder
import DataBinding.Projection.Render
import DataBinding.Proofs.AttributeSlot
import DataBinding.Proofs.AttributeTemplate
import DataBinding.Proofs.BlockMeaning
import DataBinding.Proofs.BlockMove
import DataBinding.Proofs.BlockReading
import DataBinding.Proofs.BlockSubject
import DataBinding.Proofs.CanonicalPlan
import DataBinding.Proofs.ClassAttribute
import DataBinding.Proofs.ClassOrder
import DataBinding.Proofs.CommandGrammar
import DataBinding.Proofs.CommandParts
import DataBinding.Proofs.CommandReach
import DataBinding.Proofs.ComparisonOrder
import DataBinding.Proofs.DataIndependence
import DataBinding.Proofs.EditScript
import DataBinding.Proofs.ElementChange
import DataBinding.Proofs.EqualItems
import DataBinding.Proofs.FaultPlaces
import DataBinding.Proofs.FaultSlices
import DataBinding.Proofs.FormulaGrammar
import DataBinding.Proofs.FormulaLayout
import DataBinding.Proofs.FormulaMisfit
import DataBinding.Proofs.GuardedCommand
import DataBinding.Proofs.InstructionEnd
import DataBinding.Proofs.InstructionLists
import DataBinding.Proofs.InstructionText
import DataBinding.Proofs.KeyOrder
import DataBinding.Proofs.LexemeCover
import DataBinding.Proofs.LexemeOrder
import DataBinding.Proofs.LexemePatterns
import DataBinding.Proofs.LexemeSteps
import DataBinding.Proofs.LexemeText
import DataBinding.Proofs.LinkComponent
import DataBinding.Proofs.ListedClasses
import DataBinding.Proofs.LoggedHost
import DataBinding.Proofs.MarkupReading
import DataBinding.Proofs.NamedData
import DataBinding.Proofs.NumberDisplay
import DataBinding.Proofs.NumeralValue
import DataBinding.Proofs.PathComposition
import DataBinding.Proofs.PlanRuns
import DataBinding.Proofs.RegionRun
import DataBinding.Proofs.RegionSync
import DataBinding.Proofs.RegionText
import DataBinding.Proofs.RenderedBody
import DataBinding.Proofs.RenderedInTurn
import DataBinding.Proofs.RepeatedRender
import DataBinding.Proofs.ReportLines
import DataBinding.Proofs.ReportPlace
import DataBinding.Proofs.Restoration
import DataBinding.Proofs.ScalarTruth
import DataBinding.Proofs.SelectedOptions
import DataBinding.Proofs.ShiftedCommands
import DataBinding.Proofs.ShiftedTokens
import DataBinding.Proofs.SingleElementChange
import DataBinding.Proofs.SpanNesting
import DataBinding.Proofs.StagedCommands
import DataBinding.Proofs.Staging
import DataBinding.Proofs.SymbolPlaces
import DataBinding.Proofs.SyncCalls
import DataBinding.Proofs.TemplateSlot
import DataBinding.Proofs.TextSlice
import DataBinding.Proofs.TextTemplate
import DataBinding.Proofs.ToggleMarkers
import DataBinding.Proofs.TokenForest
import DataBinding.Proofs.TokenForm
import DataBinding.Proofs.TokenPlaces
import DataBinding.Proofs.TokenText
import DataBinding.Proofs.WatchedHost
import DataBinding.Repeat.EditPlan
import DataBinding.Repeat.Item
import DataBinding.Repeat.Marker
import DataBinding.Repeat.Region
import DataBinding.Settings
import DataBinding.Settings.Document
import DataBinding.Text.Blank
import DataBinding.Text.Percent
import DataBinding.Text.Printable
import DataBinding.Text.Quoted
import DataBinding.Text.Span
import DataBinding.Text.Utf8
import DataBinding.Text.Width
import DataBinding.Toml.Document
import DataBinding.Toml.Lexical
import DataBinding.Toml.Scalar
import DataBinding.Toml.Table
import DataBinding.Value.Basic
import DataBinding.Value.ContentHash
import DataBinding.Value.Context

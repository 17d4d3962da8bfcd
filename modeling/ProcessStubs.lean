import ProcessStubs.BeanCall
import ProcessStubs.CommandLine.Manual
import ProcessStubs.CommandLine.Options
import ProcessStubs.CommandLine.Request
import ProcessStubs.CommandLine.Session
import ProcessStubs.Data.Assoc
import ProcessStubs.Data.Moment
import ProcessStubs.Data.Value
import ProcessStubs.Destination
import ProcessStubs.Diagnostic
import ProcessStubs.Discovery
import ProcessStubs.Document.Basic
import ProcessStubs.Document.OfElement
import ProcessStubs.Document.Read
import ProcessStubs.Exclusion.Pattern
import ProcessStubs.Exclusion.Wildcard
import ProcessStubs.ExitCode
import ProcessStubs.FileTree.Basic
import ProcessStubs.FileTree.Change
import ProcessStubs.FileTree.ReadText
import ProcessStubs.FileTree.RealPath
import ProcessStubs.FileTree.Scan
import ProcessStubs.Generation
import ProcessStubs.Log.Level
import ProcessStubs.Log.Line
import ProcessStubs.Log.Template
import ProcessStubs.Log.Template.Figure
import ProcessStubs.Log.Template.Piece
import ProcessStubs.Main
import ProcessStubs.Markup.CodePage
import ProcessStubs.Markup.Declaration
import ProcessStubs.Markup.Element
import ProcessStubs.Markup.Encoding
import ProcessStubs.Markup.Fault
import ProcessStubs.Markup.Name
import ProcessStubs.Markup.Reader
import ProcessStubs.Markup.Symbol
import ProcessStubs.Markup.Tag
import ProcessStubs.Number.Binary64
import ProcessStubs.Number.Rounded
import ProcessStubs.Path
import ProcessStubs.Proofs.Accounts
import ProcessStubs.Proofs.Actions
import ProcessStubs.Proofs.BeanCalls
import ProcessStubs.Proofs.BoundNames
import ProcessStubs.Proofs.CallingTasks
import ProcessStubs.Proofs.CapitalNames
import ProcessStubs.Proofs.CaseImages
import ProcessStubs.Proofs.Containment
import ProcessStubs.Proofs.DiagnosticLines
import ProcessStubs.Proofs.Discovered
import ProcessStubs.Proofs.DocumentImage
import ProcessStubs.Proofs.Endings
import ProcessStubs.Proofs.Event
import ProcessStubs.Proofs.Faults
import ProcessStubs.Proofs.Foretold
import ProcessStubs.Proofs.FoundDocuments
import ProcessStubs.Proofs.Frozen
import ProcessStubs.Proofs.Gains
import ProcessStubs.Proofs.Groundwork
import ProcessStubs.Proofs.Growth
import ProcessStubs.Proofs.ImportLines
import ProcessStubs.Proofs.Isolation
import ProcessStubs.Proofs.KeyedList
import ProcessStubs.Proofs.Layers
import ProcessStubs.Proofs.Ledger
import ProcessStubs.Proofs.LevelInForce
import ProcessStubs.Proofs.LevelTexts
import ProcessStubs.Proofs.LineBreaks
import ProcessStubs.Proofs.Literal
import ProcessStubs.Proofs.Lockstep
import ProcessStubs.Proofs.MarkupNames
import ProcessStubs.Proofs.MatchedPlaces
import ProcessStubs.Proofs.MemoryImage
import ProcessStubs.Proofs.ModuleBytes
import ProcessStubs.Proofs.ModuleHeader
import ProcessStubs.Proofs.ModuleLines
import ProcessStubs.Proofs.ModulePath
import ProcessStubs.Proofs.NamesInCode
import ProcessStubs.Proofs.OneLine
import ProcessStubs.Proofs.Overwritten
import ProcessStubs.Proofs.Participants
import ProcessStubs.Proofs.PascalCase
import ProcessStubs.Proofs.PathSize
import ProcessStubs.Proofs.Places
import ProcessStubs.Proofs.Policies
import ProcessStubs.Proofs.Preview
import ProcessStubs.Proofs.PrintedSettings
import ProcessStubs.Proofs.PrintedTables
import ProcessStubs.Proofs.PrintedValues
import ProcessStubs.Proofs.RealPath
import ProcessStubs.Proofs.Rediscovery
import ProcessStubs.Proofs.Refill
import ProcessStubs.Proofs.Regeneration
import ProcessStubs.Proofs.RepeatedPatterns
import ProcessStubs.Proofs.Rerun
import ProcessStubs.Proofs.ResolvedPaths
import ProcessStubs.Proofs.Retention
import ProcessStubs.Proofs.RunFrame
import ProcessStubs.Proofs.SameText
import ProcessStubs.Proofs.Scanned
import ProcessStubs.Proofs.SettingFiles
import ProcessStubs.Proofs.Settling
import ProcessStubs.Proofs.Steps
import ProcessStubs.Proofs.Thawed
import ProcessStubs.Proofs.TreeEdits
import ProcessStubs.Proofs.Turns
import ProcessStubs.Proofs.Validation
import ProcessStubs.Proofs.Walks
import ProcessStubs.Proofs.Ways
import ProcessStubs.Proofs.WriteExact
import ProcessStubs.Proofs.WriteFrame
import ProcessStubs.Proofs.WrittenFiles
import ProcessStubs.Report
import ProcessStubs.ReportText
import ProcessStubs.Run
import ProcessStubs.RuntimeContract
import ProcessStubs.RuntimeReference
import ProcessStubs.Settings.Basic
import ProcessStubs.Settings.Draft
import ProcessStubs.Settings.Load
import ProcessStubs.Settings.Policy
import ProcessStubs.Stub.Basic
import ProcessStubs.Stub.LibraryModules
import ProcessStubs.Stub.Mapping
import ProcessStubs.Stub.ModuleText
import ProcessStubs.Terminal.Console
import ProcessStubs.Terminal.Escape
import ProcessStubs.Terminal.Pen
import ProcessStubs.Terminal.Style
import ProcessStubs.Text.Blank
import ProcessStubs.Text.CaseMap
import ProcessStubs.Text.Digit
import ProcessStubs.Text.Identifier
import ProcessStubs.Text.Lines
import ProcessStubs.Text.Numeral
import ProcessStubs.Text.Order
import ProcessStubs.Text.Printable
import ProcessStubs.Text.Quoted
import ProcessStubs.Text.Ranges
import ProcessStubs.Text.Similarity
import ProcessStubs.Text.Split
import ProcessStubs.Text.Utf8
import ProcessStubs.Text.Words
import ProcessStubs.Toml.Fault
import ProcessStubs.Toml.Printer
import ProcessStubs.Toml.Reader
import ProcessStubs.Toml.Scalar
import ProcessStubs.Toml.Text
import ProcessStubs.Toml.Tree

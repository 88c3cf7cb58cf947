import StructuredLog.Bridge
import StructuredLog.Bridge.Recorder
import StructuredLog.Decimal.Layout
import StructuredLog.Decimal.Pieces
import StructuredLog.Decimal.Reading
import StructuredLog.Decimal.Shortest
import StructuredLog.Entry
import StructuredLog.Error
import StructuredLog.EventId
import StructuredLog.Indexed
import StructuredLog.Inspect
import StructuredLog.Json
import StructuredLog.Json.Printer
import StructuredLog.Json.Reader
import StructuredLog.Level
import StructuredLog.Message
import StructuredLog.Names
import StructuredLog.Observed
import StructuredLog.Proofs.Template.Pattern
import StructuredLog.Proofs.Template.Separation
import StructuredLog.Rendering
import StructuredLog.Scope
import StructuredLog.Settings
import StructuredLog.Settings.Document
import StructuredLog.Settings.Problem
import StructuredLog.Settings.Source
import StructuredLog.Settings.Value
import StructuredLog.Sink
import StructuredLog.Sink.Device
import StructuredLog.Sink.JsonLines
import StructuredLog.Sink.Memory
import StructuredLog.Sink.OpenScopes
import StructuredLog.Sink.TextLines
import StructuredLog.Template
import StructuredLog.Template.Atom
import StructuredLog.Template.Bytes
import StructuredLog.Template.Scan
import StructuredLog.Text.Blank
import StructuredLog.Text.Hex
import StructuredLog.Text.Quoted
import StructuredLog.Text.Slice
import StructuredLog.Text.Utf8
import StructuredLog.Text.Visible
import StructuredLog.Value
import StructuredLog.View
import StructuredLog.Yaml.Data
import StructuredLog.Yaml.Node
import StructuredLog.Yaml.Node.Reader
import StructuredLog.Yaml.Scalar
import StructuredLog.Yaml.Tag
import StructuredLog.Yaml.Token
import StructuredLog.Yaml.Token.Lexer
import StructuredLog.Proofs.Template.Run
import StructuredLog.Proofs.Template.Rendering
import StructuredLog.Proofs.Template.Grammar
import StructuredLog.Proofs.Template.Malformed
import StructuredLog.Proofs.Message.Definition
import StructuredLog.Proofs.Message.Lookup
import StructuredLog.Proofs.View.Positions
import StructuredLog.Proofs.Template.Slots
import StructuredLog.Proofs.Message.Rendering
import StructuredLog.Proofs.Sink.MemoryScopes
import StructuredLog.Proofs.Sink.GuardedScopes
import StructuredLog.Proofs.Sink.AttachedScopes
import StructuredLog.Proofs.Entry.Captured
import StructuredLog.Proofs.Entry.Lines
import StructuredLog.Proofs.Message.Captured
import StructuredLog.Proofs.Sink.MemoryEntries
import StructuredLog.Proofs.Sink.WrittenLines
import StructuredLog.Proofs.Sink.TextLog
import StructuredLog.Proofs.Json.OneLine
import StructuredLog.Proofs.Json.Fields
import StructuredLog.Proofs.Sink.AcceptedEntries
import StructuredLog.Proofs.Sink.JsonLog
import StructuredLog.Proofs.Sink.Agreement
import StructuredLog.Proofs.Sink.Answers
import StructuredLog.Proofs.Sink.Deliveries
import StructuredLog.Proofs.Sink.TruncatedLines
import StructuredLog.Proofs.Sink.SparedSteps
import StructuredLog.Proofs.Sink.FailedSteps
import StructuredLog.Proofs.Entry.Started
import StructuredLog.Proofs.Sink.DisplayedCalls
import StructuredLog.Proofs.Sink.RecoveredTexts
import StructuredLog.Proofs.Template.Concatenation
import StructuredLog.Proofs.Bridge.Keys
import StructuredLog.Proofs.Template.Outcomes
import StructuredLog.Proofs.Sink.LineCounts
import StructuredLog.Proofs.Bridge.Visits
import StructuredLog.Proofs.Json.RepeatedNames
import StructuredLog.Proofs.Rendering.Writers
import StructuredLog.Proofs.Template.Writing
import StructuredLog.Proofs.View.Visits
import StructuredLog.Proofs.Entry.Lookup
import StructuredLog.Proofs.Sink.ScopeTexts
import StructuredLog.Proofs.Settings.Levels
import StructuredLog.Proofs.Template.Spans
import StructuredLog.Proofs.Template.Slicing

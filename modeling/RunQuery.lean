import RunQuery.Calendar
import RunQuery.CommandLine.Arguments
import RunQuery.CommandLine.Program
import RunQuery.ConditionText
import RunQuery.Content
import RunQuery.Decimal.Basic
import RunQuery.Decimal.Layout
import RunQuery.Decimal.Reader
import RunQuery.Decimal.Shortest
import RunQuery.Dict
import RunQuery.Discovery
import RunQuery.Document
import RunQuery.Double
import RunQuery.EngineConfig
import RunQuery.Filter.Basic
import RunQuery.Filter.Comparison
import RunQuery.Filter.Compiled
import RunQuery.Filter.Evaluation
import RunQuery.Filter.Wire
import RunQuery.Grouping
import RunQuery.InputFile
import RunQuery.Instant
import RunQuery.Json.Extended
import RunQuery.Json.Lenient
import RunQuery.Json.Number
import RunQuery.Json.Printer
import RunQuery.Json.Reader
import RunQuery.Json.Token
import RunQuery.Key
import RunQuery.Main
import RunQuery.Merge
import RunQuery.Pattern.Automaton.Basic
import RunQuery.Pattern.Automaton.Characters
import RunQuery.Pattern.Automaton.OfPattern
import RunQuery.Pattern.Automaton.Texts
import RunQuery.Pattern.Basic
import RunQuery.Pattern.Bytes
import RunQuery.Pattern.Classes
import RunQuery.Pattern.Notation.Class
import RunQuery.Pattern.Notation.Escape
import RunQuery.Pattern.Notation.Flags
import RunQuery.Pattern.Reader
import RunQuery.Pattern.Search
import RunQuery.Pipeline
import RunQuery.Query.Basic
import RunQuery.Query.Wire
import RunQuery.Run.Basic
import RunQuery.Run.Payload
import RunQuery.Run.Snapshot
import RunQuery.Selection
import RunQuery.Selection.Wire
import RunQuery.Settings.Basic
import RunQuery.Settings.Entry
import RunQuery.Settings.Path
import RunQuery.Settings.Source
import RunQuery.Settings.Variables
import RunQuery.Sorting
import RunQuery.Surroundings
import RunQuery.Text.Percent
import RunQuery.Text.Utf8
import RunQuery.Timestamp
import RunQuery.Tree
import RunQuery.Unicode.Age
import RunQuery.Unicode.Boundary
import RunQuery.Unicode.Case
import RunQuery.Unicode.Category
import RunQuery.Unicode.Class
import RunQuery.Unicode.Listed
import RunQuery.Unicode.Property
import RunQuery.Unicode.Ranges
import RunQuery.Unicode.Script
import RunQuery.Value.Basic
import RunQuery.Worker.Basic
import RunQuery.Worker.Queue
import RunQuery.Yaml.Block
import RunQuery.Yaml.Node
import RunQuery.Yaml.Place
import RunQuery.Yaml.Plain
import RunQuery.Yaml.Property
import RunQuery.Yaml.Scalar
import RunQuery.Yaml.Scanner
import RunQuery.Yaml.Text
import RunQuery.Yaml.Token
import RunQuery.Proofs.Merge.Batch
import RunQuery.Proofs.Merge.Reuse
import RunQuery.Proofs.Merge.Agreement
import RunQuery.Proofs.Merge.Again
import RunQuery.Proofs.Pipeline.Delivery
import RunQuery.Proofs.CommandLine.Inheritance
import RunQuery.Proofs.Selection.Canonical
import RunQuery.Proofs.Selection.Edits
import RunQuery.Proofs.Selection.Ranges
import RunQuery.Proofs.Decimal.Shortest
import RunQuery.Proofs.Decimal.Layout
import RunQuery.Proofs.Value.Equality
import RunQuery.Proofs.Filter.Compiled
import RunQuery.Proofs.Grouping.Expansion
import RunQuery.Proofs.Tree.Canonical
import RunQuery.Proofs.Json.Grammar
import RunQuery.Proofs.Json.Numeral
import RunQuery.Proofs.Json.Written
import RunQuery.Proofs.Json.Rewriting
import RunQuery.Proofs.Json.Extended
import RunQuery.Proofs.Text.Percent
import RunQuery.Proofs.Value.NonFinite
import RunQuery.Proofs.Filter.Link
import RunQuery.Proofs.Calendar
import RunQuery.Proofs.Timestamp
import RunQuery.Proofs.Document
import RunQuery.Proofs.Run.Payload
import RunQuery.Proofs.Run.Snapshot
import RunQuery.Proofs.Filter.Defects
import RunQuery.Proofs.Worker.Queue
import RunQuery.Proofs.Pipeline.Answer
import RunQuery.Proofs.Query.Wire
import RunQuery.Proofs.Selection.Brushing
import RunQuery.Proofs.Selection.Width
import RunQuery.Proofs.Sorting
import RunQuery.Proofs.Text.ByteOrder
import RunQuery.Proofs.Grouping.Rows
import RunQuery.Proofs.Selection.Independence
import RunQuery.Proofs.Selection.AxisRanges
import RunQuery.Proofs.Timestamp.Parts
import RunQuery.Proofs.Timestamp.Zone
import RunQuery.Proofs.Run.Timestamps
import RunQuery.Proofs.Filter.Paths
import RunQuery.Proofs.Run.Configuration
import RunQuery.Proofs.Tree.Members
import RunQuery.Proofs.Run.Members
import RunQuery.Proofs.Key
import RunQuery.Proofs.Selection.Wire
import RunQuery.Proofs.ConditionText
import RunQuery.Proofs.Filter.Narrowing
import RunQuery.Proofs.Discovery.Suggestions
import RunQuery.Proofs.Filter.Comparison
import RunQuery.Proofs.Filter.Damage
import RunQuery.Proofs.Worker.Latest
import RunQuery.Proofs.Discovery.Columns

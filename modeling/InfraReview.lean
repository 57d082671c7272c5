import InfraReview.Analysis
import InfraReview.BlockTable
import InfraReview.Calendar.Date
import InfraReview.Calendar.Moment
import InfraReview.Check.Basic
import InfraReview.Check.Bucket
import InfraReview.Check.Catalog
import InfraReview.Check.Database
import InfraReview.Check.Key
import InfraReview.Check.Network
import InfraReview.Check.Trail
import InfraReview.CommandLine.Publish
import InfraReview.CommandLine.Reading
import InfraReview.CommandLine.Review
import InfraReview.CommandLine.Run
import InfraReview.CommandLine.Usage
import InfraReview.CommandLine.Word
import InfraReview.Config
import InfraReview.Config.File
import InfraReview.Engine
import InfraReview.Entity
import InfraReview.File.Path
import InfraReview.File.Tree
import InfraReview.Finding
import InfraReview.GitHub.Annotation
import InfraReview.GitHub.Fault
import InfraReview.GitHub.Finding
import InfraReview.GitHub.Summary
import InfraReview.Grammar.Automaton
import InfraReview.Grammar.Machine
import InfraReview.Grammar.Phrase
import InfraReview.Grammar.Table
import InfraReview.Hcl.Body
import InfraReview.Hcl.Document
import InfraReview.Hcl.Language
import InfraReview.Hcl.Lexeme
import InfraReview.Hcl.Literal
import InfraReview.Hcl.Meaning
import InfraReview.Hcl.Tree
import InfraReview.Json.Basic
import InfraReview.Json.Document
import InfraReview.Json.Order
import InfraReview.Json.Reader
import InfraReview.Json.Writer
import InfraReview.Key
import InfraReview.Libraries
import InfraReview.Log
import InfraReview.Logged
import InfraReview.Main
import InfraReview.Number.Arithmetic
import InfraReview.Number.Decimal
import InfraReview.Number.Double
import InfraReview.Number.Length
import InfraReview.Number.Numeral
import InfraReview.Pillar
import InfraReview.Plan.Changes
import InfraReview.Plan.Entities
import InfraReview.Plan.Error
import InfraReview.Plan.Snapshot
import InfraReview.Plan.Values
import InfraReview.Plan.Visit
import InfraReview.Registry
import InfraReview.Report.Basic
import InfraReview.Report.Columns
import InfraReview.Report.Markdown
import InfraReview.Report.Outcome
import InfraReview.Report.Table
import InfraReview.Severity
import InfraReview.Sorting
import InfraReview.Source
import InfraReview.Source.Files
import InfraReview.Suppression
import InfraReview.Text.Base64
import InfraReview.Text.Blank
import InfraReview.Text.CaseTable
import InfraReview.Text.Digit
import InfraReview.Text.Display
import InfraReview.Text.Encoding
import InfraReview.Text.Hex
import InfraReview.Text.Letters
import InfraReview.Text.Lines
import InfraReview.Text.LowerCase
import InfraReview.Text.Printable
import InfraReview.Text.Quoted
import InfraReview.Text.Ranges
import InfraReview.Value
import InfraReview.World
import InfraReview.Yaml.BlockText
import InfraReview.Yaml.Composition
import InfraReview.Yaml.Construction
import InfraReview.Yaml.Cursor
import InfraReview.Yaml.Datum
import InfraReview.Yaml.Document
import InfraReview.Yaml.Fault
import InfraReview.Yaml.Merging
import InfraReview.Yaml.Name
import InfraReview.Yaml.Node
import InfraReview.Yaml.PlainTag
import InfraReview.Yaml.PlainText
import InfraReview.Yaml.QuotedText
import InfraReview.Yaml.ScalarValue
import InfraReview.Yaml.SetOrder
import InfraReview.Yaml.Timestamp
import InfraReview.Yaml.Token
import InfraReview.Yaml.Tokens
import InfraReview.Proofs.Blame
import InfraReview.Proofs.Calendar.Order
import InfraReview.Proofs.Calendar.Reading
import InfraReview.Proofs.Calendar.Writing
import InfraReview.Proofs.Check.Classification
import InfraReview.Proofs.Check.Cover
import InfraReview.Proofs.Check.Exposure
import InfraReview.Proofs.Check.Faults
import InfraReview.Proofs.CommandLine.Acceptance
import InfraReview.Proofs.CommandLine.Configuration
import InfraReview.Proofs.CommandLine.Gate
import InfraReview.Proofs.CommandLine.Refusal
import InfraReview.Proofs.Config.Expiry
import InfraReview.Proofs.Config.Loading
import InfraReview.Proofs.Config.Validation
import InfraReview.Proofs.Engine.Dispatch
import InfraReview.Proofs.Engine.Order
import InfraReview.Proofs.Engine.Selection
import InfraReview.Proofs.Entity.Quoting
import InfraReview.Proofs.Entity.Reading
import InfraReview.Proofs.Entity.Regular
import InfraReview.Proofs.File.Listing
import InfraReview.Proofs.GitHub.Command
import InfraReview.Proofs.GitHub.Overview
import InfraReview.Proofs.GitHub.Publication
import InfraReview.Proofs.GitHub.Row
import InfraReview.Proofs.GitHub.Table
import InfraReview.Proofs.GitHub.Wording
import InfraReview.Proofs.Hcl.Breakage
import InfraReview.Proofs.Hcl.Decoding
import InfraReview.Proofs.Hcl.Escape
import InfraReview.Proofs.Hcl.Grouping
import InfraReview.Proofs.Hcl.Layout
import InfraReview.Proofs.Hcl.Outermost
import InfraReview.Proofs.Hcl.QuotedText
import InfraReview.Proofs.Hcl.Regular
import InfraReview.Proofs.Hcl.Resolution
import InfraReview.Proofs.Hcl.Search
import InfraReview.Proofs.Hcl.WrappedNumber
import InfraReview.Proofs.Hcl.Wrapping
import InfraReview.Proofs.Json.Length
import InfraReview.Proofs.Json.Names
import InfraReview.Proofs.Json.Reading
import InfraReview.Proofs.Json.Spelling
import InfraReview.Proofs.Json.Writing
import InfraReview.Proofs.Lookup
import InfraReview.Proofs.Number.Decimal
import InfraReview.Proofs.Number.Length
import InfraReview.Proofs.Number.Notation
import InfraReview.Proofs.Number.Range
import InfraReview.Proofs.Number.Rounding
import InfraReview.Proofs.Number.Whole
import InfraReview.Proofs.Plan.Breakdown
import InfraReview.Proofs.Plan.Changes
import InfraReview.Proofs.Plan.Deletion
import InfraReview.Proofs.Plan.Mapping
import InfraReview.Proofs.Plan.Placement
import InfraReview.Proofs.Plan.Regular
import InfraReview.Proofs.Plan.Resource
import InfraReview.Proofs.Plan.Traversal
import InfraReview.Proofs.Registry.History
import InfraReview.Proofs.Report.Columns
import InfraReview.Proofs.Report.Counting
import InfraReview.Proofs.Report.Order
import InfraReview.Proofs.Report.Summary
import InfraReview.Proofs.Report.Threshold
import InfraReview.Proofs.Report.Transport
import InfraReview.Proofs.Resource.Agreement
import InfraReview.Proofs.Resource.Body
import InfraReview.Proofs.Resource.Constant
import InfraReview.Proofs.Resource.Order
import InfraReview.Proofs.Source.Declaration
import InfraReview.Proofs.Source.Directory
import InfraReview.Proofs.Source.Discovery
import InfraReview.Proofs.Source.Files
import InfraReview.Proofs.Success
import InfraReview.Proofs.Suppression.Division
import InfraReview.Proofs.Suppression.Expiry
import InfraReview.Proofs.Text.Split
import InfraReview.Proofs.Text.Trim
import InfraReview.Proofs.Text.Utf8
import InfraReview.Proofs.Value.Fitting
import InfraReview.Proofs.Value.Freezing
import InfraReview.Proofs.Yaml.Breakage
import InfraReview.Proofs.Yaml.Composing
import InfraReview.Proofs.Yaml.Date
import InfraReview.Proofs.Yaml.Length
import InfraReview.Proofs.Yaml.Scanning

import PromptTree.Backend.Chat
import PromptTree.Backend.Config
import PromptTree.Backend.Fault
import PromptTree.Backend.Registry
import PromptTree.Block
import PromptTree.Calendar.Date
import PromptTree.Calendar.Expression
import PromptTree.Calendar.Iso
import PromptTree.Calendar.Moment
import PromptTree.Calendar.Pattern
import PromptTree.CommandLine.Blocks
import PromptTree.CommandLine.Context
import PromptTree.CommandLine.Failure
import PromptTree.CommandLine.Outcome
import PromptTree.CommandLine.Request
import PromptTree.CommandLine.Run
import PromptTree.CommandLine.Word
import PromptTree.Decimal.Binary64
import PromptTree.Decimal.Notation
import PromptTree.Decimal.Reading
import PromptTree.Decimal.Shortest
import PromptTree.Document.Fields
import PromptTree.Document.Mapping
import PromptTree.Document.Problem
import PromptTree.Document.Source
import PromptTree.Document.Tree
import PromptTree.Document.Vocabulary
import PromptTree.Fetcher
import PromptTree.Files.Basic
import PromptTree.Files.Path
import PromptTree.Html.Conversion
import PromptTree.Html.Entity
import PromptTree.Html.Markdown
import PromptTree.Html.Token
import PromptTree.Html.Tree
import PromptTree.Log
import PromptTree.Main
import PromptTree.Proofs.Workflow.Result
import PromptTree.Regex.Basic
import PromptTree.Regex.CharSet
import PromptTree.Regex.Reader
import PromptTree.Regex.Search
import PromptTree.Reply
import PromptTree.Report
import PromptTree.Scope
import PromptTree.Template.Command
import PromptTree.Template.Piece
import PromptTree.Template.Resolve
import PromptTree.Text.Base64
import PromptTree.Text.Blank
import PromptTree.Text.Digit
import PromptTree.Text.Letter
import PromptTree.Text.Markup
import PromptTree.Text.Newline
import PromptTree.Text.Printable
import PromptTree.Text.Quoted
import PromptTree.Text.QuotedPrintable
import PromptTree.Text.Ranges
import PromptTree.Text.Split
import PromptTree.Text.Utf8
import PromptTree.Text.Word
import PromptTree.Uri
import PromptTree.Value.Basic
import PromptTree.Value.Display
import PromptTree.Value.Json
import PromptTree.Value.JsonReader
import PromptTree.Web
import PromptTree.Workflow.Check
import PromptTree.Workflow.Interpreter
import PromptTree.Workflow.Projected
import PromptTree.Workflow.Rejection
import PromptTree.Workflow.Retry
import PromptTree.Workflow.Schema
import PromptTree.Workflow.Session
import PromptTree.Workflow.Step
import PromptTree.Xml.Basic
import PromptTree.Xml.Character
import PromptTree.Xml.Doctype
import PromptTree.Xml.Lexeme
import PromptTree.Xml.Reader
import PromptTree.Yaml.Cursor
import PromptTree.Yaml.Data
import PromptTree.Yaml.Fault
import PromptTree.Yaml.Node
import PromptTree.Yaml.Number
import PromptTree.Yaml.Scalar
import PromptTree.Yaml.Tag
import PromptTree.Yaml.Token
import PromptTree.Proofs.Workflow.Parts
import PromptTree.Proofs.Workflow.Tree
import PromptTree.Proofs.Document.Clean
import PromptTree.Proofs.Document.Description
import PromptTree.Proofs.Document.Fields
import PromptTree.Proofs.Document.Steps
import PromptTree.Proofs.Document.Soundness
import PromptTree.Proofs.Document.Loading
import PromptTree.Proofs.Workflow.TextSafety
import PromptTree.Proofs.Workflow.Journal
import PromptTree.Proofs.Workflow.Generation
import PromptTree.Proofs.Template.Plain
import PromptTree.Proofs.Template.Glossary
import PromptTree.Proofs.Template.Expansion
import PromptTree.Proofs.Text.Markup
import PromptTree.Proofs.Text.Sparse
import PromptTree.Proofs.Block.Inert
import PromptTree.Proofs.Block.Reading
import PromptTree.Proofs.Block.Settling
import PromptTree.Proofs.Block.Nesting
import PromptTree.Proofs.Workflow.Containment
import PromptTree.Proofs.Workflow.Downloads
import PromptTree.Proofs.Workflow.Questions
import PromptTree.Proofs.Scope.Merge
import PromptTree.Proofs.Workflow.Verdict
import PromptTree.Proofs.Workflow.Constraint
import PromptTree.Proofs.Text.Number
import PromptTree.Proofs.Document.Writing
import PromptTree.Proofs.Document.Rereading
import PromptTree.Proofs.Document.Elements
import PromptTree.Proofs.Scope.Names
import PromptTree.Proofs.Workflow.Names
import PromptTree.Proofs.Backend.Coherence
import PromptTree.Proofs.Workflow.Declarations
import PromptTree.Proofs.Document.Stopping
import PromptTree.Proofs.Document.Obstacles
import PromptTree.Proofs.Document.Judgement
import PromptTree.Proofs.Value.Keys
import PromptTree.Proofs.Value.Wordless
import PromptTree.Proofs.Template.Dependence
import PromptTree.Proofs.Workflow.Order
import PromptTree.Proofs.Template.Idempotence
import PromptTree.Proofs.Template.Nested
import PromptTree.Proofs.Template.Capture
import PromptTree.Proofs.Backend.Answer
import PromptTree.Proofs.Calendar.Ordinal
import PromptTree.Proofs.Calendar.Shift
import PromptTree.Proofs.Workflow.Gate
import PromptTree.Proofs.Text.Classes
import PromptTree.Proofs.Calendar.IsoEnds
import PromptTree.Proofs.Calendar.Layout
import PromptTree.Proofs.Calendar.Phrase
import PromptTree.Proofs.Calendar.Resolution
import PromptTree.Proofs.Calendar.Overshoot
import PromptTree.Proofs.Calendar.Months
import PromptTree.Proofs.Document.Naming
import PromptTree.Proofs.Workflow.Items
import PromptTree.Proofs.Value.Sameness
import PromptTree.Proofs.Value.Maps
import PromptTree.Proofs.Backend.Entry
import PromptTree.Proofs.Backend.Intake
import PromptTree.Proofs.Workflow.Places
import PromptTree.Proofs.Document.Siblings
import PromptTree.Proofs.Text.Lowering
import PromptTree.Proofs.Uri.Writing
import PromptTree.Proofs.Uri.Credentials
import PromptTree.Proofs.Value.Reading
import PromptTree.Proofs.Value.Spelling
import PromptTree.Proofs.Scope.Texts
import PromptTree.Proofs.CommandLine.Variables
import PromptTree.Proofs.Scope.Monoid
import PromptTree.Proofs.Template.Reports
import PromptTree.Proofs.Workflow.Reports
import PromptTree.Proofs.Template.Cut

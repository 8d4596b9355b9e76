import Bulletin.Block.Alias
import Bulletin.Block.Basic
import Bulletin.Block.Content
import Bulletin.Block.Kind
import Bulletin.Color
import Bulletin.Command.FileTree
import Bulletin.Command.Line
import Bulletin.Command.Machine
import Bulletin.Command.Report
import Bulletin.Document
import Bulletin.Double.Basic
import Bulletin.Double.Layout
import Bulletin.Double.Numeral
import Bulletin.Double.Power
import Bulletin.Double.Shortest
import Bulletin.Fragment.Articles
import Bulletin.Fragment.Calendar
import Bulletin.Fragment.Campaign
import Bulletin.Fragment.Draw
import Bulletin.Fragment.Envelope
import Bulletin.Fragment.Masthead
import Bulletin.Fragment.Media
import Bulletin.Fragment.Prose
import Bulletin.Fragment.Quiz
import Bulletin.Fragment.Scope
import Bulletin.Fragment.Social
import Bulletin.Html.Escape
import Bulletin.Html.Node
import Bulletin.Json.Basic
import Bulletin.Json.Error
import Bulletin.Json.Lexeme
import Bulletin.Json.Printer
import Bulletin.Json.Reader
import Bulletin.Json.Record
import Bulletin.Lint
import Bulletin.Log.Decoding
import Bulletin.Log.Drawing
import Bulletin.Log.Event
import Bulletin.Options
import Bulletin.Options.Yaml
import Bulletin.Style.Align
import Bulletin.Style.Declarations
import Bulletin.Style.Resolve
import Bulletin.Style.Spec
import Bulletin.Stylesheet
import Bulletin.Template
import Bulletin.Text.Blank
import Bulletin.Text.Bytes
import Bulletin.Text.Digit
import Bulletin.Text.Lines
import Bulletin.Text.Printable
import Bulletin.Text.Replace
import Bulletin.Text.Rest
import Bulletin.Theme
import Bulletin.Theme.Yaml
import Bulletin.Yaml.Cursor
import Bulletin.Yaml.Document
import Bulletin.Yaml.Lexer
import Bulletin.Yaml.Node
import Bulletin.Yaml.Plain
import Bulletin.Yaml.Scalar
import Bulletin.Yaml.Token
import Bulletin.Yaml.Value
import Bulletin.Year
import Bulletin.Main
import Bulletin.Proofs.Markup.Nesting
import Bulletin.Proofs.Markup.Tree
import Bulletin.Proofs.Markup.Fragments
import Bulletin.Proofs.Quiz.Scope
import Bulletin.Proofs.Text.Replace
import Bulletin.Proofs.Quiz.Script
import Bulletin.Proofs.Markup.Skeleton
import Bulletin.Proofs.Markup.Injection
import Bulletin.Proofs.Markup.Integrity
import Bulletin.Proofs.Markup.Reading
import Bulletin.Proofs.Quiz.Consistency
import Bulletin.Proofs.Newsletter.Order
import Bulletin.Proofs.Block.Alias
import Bulletin.Proofs.Block.Fields
import Bulletin.Proofs.Json.Lexeme
import Bulletin.Proofs.Json.Grammar
import Bulletin.Proofs.Template.Loading
import Bulletin.Proofs.Markup.Marks
import Bulletin.Proofs.Markup.Contents
import Bulletin.Proofs.Lint.Message
import Bulletin.Proofs.Lint.Collections
import Bulletin.Proofs.Lint.Drawing
import Bulletin.Proofs.Lint.Verdict
import Bulletin.Proofs.Markup.Names
import Bulletin.Proofs.Markup.Elements
import Bulletin.Proofs.Newsletter.Scripts
import Bulletin.Proofs.Command.Loading
import Bulletin.Proofs.Yaml.Options
import Bulletin.Proofs.Yaml.Mapping
import Bulletin.Proofs.Command.Render
import Bulletin.Proofs.Command.Check
import Bulletin.Proofs.Log.Warnings
import Bulletin.Proofs.Json.Skip
import Bulletin.Proofs.Json.Record
import Bulletin.Proofs.Template.Agreement
import Bulletin.Proofs.Double.Units
import Bulletin.Proofs.Quiz.Answer
import Bulletin.Proofs.Block.Folding
import Bulletin.Proofs.Style.Resolution
import Bulletin.Proofs.Text.Lines
import Bulletin.Proofs.Markup.Escaping
import Bulletin.Proofs.Text.Trim
import Bulletin.Proofs.Style.Color
import Bulletin.Proofs.Block.Envelope
import Bulletin.Proofs.Block.Items
import Bulletin.Proofs.Double.Value
import Bulletin.Proofs.Lint.Opacity
import Bulletin.Proofs.Markup.Links
import Bulletin.Proofs.Markup.Matching
import Bulletin.Proofs.Block.Exhibit
import Bulletin.Proofs.Block.Layout
import Bulletin.Proofs.Quiz.Questions
import Bulletin.Proofs.Json.Printed
import Bulletin.Proofs.Style.RoundTrip
import Bulletin.Proofs.Theme.Usable
import Bulletin.Proofs.Newsletter.Noninterference
import Bulletin.Proofs.Quiz.Search
import Bulletin.Proofs.Double.Rounding
import Bulletin.Proofs.Double.Numeral
import Bulletin.Proofs.Json.Measure
import Bulletin.Proofs.Json.Number
import Bulletin.Proofs.Block.Numbers

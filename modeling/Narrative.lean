import Narrative.Build
import Narrative.Catalog
import Narrative.Command.Basic
import Narrative.Command.Parser
import Narrative.Command.Phrase
import Narrative.Condition
import Narrative.Console.Basic
import Narrative.Console.Input
import Narrative.Console.Run
import Narrative.DataRoot
import Narrative.Decimal.Positional
import Narrative.Decimal.Shortest
import Narrative.Document.Basic
import Narrative.Document.Datum
import Narrative.Document.Decode
import Narrative.Document.Format
import Narrative.Document.Json
import Narrative.Document.Moment
import Narrative.Document.Quest
import Narrative.Document.Ron
import Narrative.Document.Ron.Number
import Narrative.Document.Ron.Token
import Narrative.Document.Toml
import Narrative.Expr.Basic
import Narrative.Expr.Eval
import Narrative.Expr.Parser
import Narrative.Expr.Token
import Narrative.Graph
import Narrative.Inventory
import Narrative.Lint
import Narrative.Load
import Narrative.Main
import Narrative.Path
import Narrative.Quest
import Narrative.Recipe.Basic
import Narrative.Recipe.Shorthand
import Narrative.Registry
import Narrative.Relay
import Narrative.Screen
import Narrative.Session.Basic
import Narrative.Session.Host
import Narrative.Session.Navigation
import Narrative.Session.Notice
import Narrative.Session.Play
import Narrative.Session.Script
import Narrative.Session.Subscription
import Narrative.Session.View
import Narrative.Settings
import Narrative.Template
import Narrative.Text.Blank
import Narrative.Text.BreakClass
import Narrative.Text.Columns
import Narrative.Text.Glyph
import Narrative.Text.Letter
import Narrative.Text.LineBreak
import Narrative.Text.Mark
import Narrative.Text.Name
import Narrative.Text.Numeral
import Narrative.Text.Ranges
import Narrative.Text.Scanner
import Narrative.Text.Uppercase
import Narrative.Text.Wrap
import Narrative.Validation
import Narrative.Value
import Narrative.Proofs.Build
import Narrative.Proofs.Expr.Grammar
import Narrative.Proofs.Expr.Parsing
import Narrative.Proofs.Expr.Runtime
import Narrative.Proofs.Expr.Scanning
import Narrative.Proofs.Inventory
import Narrative.Proofs.Lint
import Narrative.Proofs.Registration
import Narrative.Proofs.Session.Agreement
import Narrative.Proofs.Session.Arrival
import Narrative.Proofs.Session.Call
import Narrative.Proofs.Session.Clean
import Narrative.Proofs.Session.Command
import Narrative.Proofs.Session.Following
import Narrative.Proofs.Session.HopLimit
import Narrative.Proofs.Session.Host
import Narrative.Proofs.Session.Navigation
import Narrative.Proofs.Session.Once
import Narrative.Proofs.Session.Outcome
import Narrative.Proofs.Session.Representation
import Narrative.Proofs.Session.Seen
import Narrative.Proofs.Session.Skipping
import Narrative.Proofs.Session.Steps
import Narrative.Proofs.Session.Trail
import Narrative.Proofs.Session.Unwinding
import Narrative.Proofs.Holding
import Narrative.Proofs.Shorthand
import Narrative.Proofs.Session.Crafting
import Narrative.Proofs.Session.Moment
import Narrative.Proofs.Session.Mirror
import Narrative.Proofs.Session.Habit
import Narrative.Proofs.Session.Lifecycle
import Narrative.Proofs.Console
import Narrative.Proofs.Counter
import Narrative.Proofs.Recipe
import Narrative.Proofs.Template
import Narrative.Proofs.Condition
import Narrative.Proofs.Warning
import Narrative.Proofs.Session.Refusal
import Narrative.Proofs.Session.Variable
import Narrative.Proofs.Session.Choosing
import Narrative.Proofs.Phrase
import Narrative.Proofs.Report
import Narrative.Proofs.Text
import Narrative.Proofs.Numbering
import Narrative.Proofs.Command
import Narrative.Proofs.Session.Inlining
import Narrative.Proofs.Session.Nesting
import Narrative.Proofs.Session.Outermost
import Narrative.Proofs.Assignment
import Narrative.Proofs.Template.Tiling
import Narrative.Proofs.Expr.Verdict
import Narrative.Proofs.Session.Effect
import Narrative.Proofs.Dependence
import Narrative.Proofs.Document
import Narrative.Proofs.Session.Staying
import Narrative.Proofs.Number
import Narrative.Proofs.Expr.Comparison
import Narrative.Proofs.Tally
import Narrative.Proofs.Session.Delivery
import Narrative.Proofs.Catalog

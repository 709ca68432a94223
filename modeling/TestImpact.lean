import TestImpact.CallGraph.Affected
import TestImpact.CallGraph.Basic
import TestImpact.CallGraph.Dot
import TestImpact.CallGraph.Focus
import TestImpact.CallGraph.Json
import TestImpact.ChangedFunctions
import TestImpact.CommandLine.Arguments
import TestImpact.CommandLine.Command
import TestImpact.CommandLine.Run
import TestImpact.CommandLine.Suggestion
import TestImpact.CommandLine.Usage
import TestImpact.Decimal.Binary64
import TestImpact.Diff.Basic
import TestImpact.Diff.Line
import TestImpact.Diff.Read
import TestImpact.Display.Escape
import TestImpact.Display.Markup
import TestImpact.Display.Table
import TestImpact.Display.Wrap
import TestImpact.FileTree
import TestImpact.LineRange
import TestImpact.Listing
import TestImpact.Main
import TestImpact.Naming
import TestImpact.Note
import TestImpact.Path
import TestImpact.Project
import TestImpact.Proofs.CallGraph.Answers
import TestImpact.Proofs.CallGraph.Dot
import TestImpact.Proofs.CallGraph.Edges
import TestImpact.Proofs.CallGraph.Effort
import TestImpact.Proofs.CallGraph.Exports
import TestImpact.Proofs.CallGraph.Focus
import TestImpact.Proofs.CallGraph.Json
import TestImpact.Proofs.CallGraph.Memory
import TestImpact.Proofs.CallGraph.Walk
import TestImpact.Proofs.ChangedFunctions
import TestImpact.Proofs.CommandLine.EntryPoints
import TestImpact.Proofs.Diff.Contents
import TestImpact.Proofs.Diff.Faults
import TestImpact.Proofs.Diff.Filing
import TestImpact.Proofs.Diff.Grammar
import TestImpact.Proofs.Diff.Joined
import TestImpact.Proofs.Diff.Landing
import TestImpact.Proofs.Diff.LineEnds
import TestImpact.Proofs.Diff.Marks
import TestImpact.Proofs.Diff.Rendered
import TestImpact.Proofs.Diff.Sections
import TestImpact.Proofs.Diff.Unrenamed
import TestImpact.Proofs.FileTree
import TestImpact.Proofs.Json.Reading
import TestImpact.Proofs.Listing
import TestImpact.Proofs.ModuleName
import TestImpact.Proofs.Project
import TestImpact.Proofs.Project.BadFiles
import TestImpact.Proofs.Resolution
import TestImpact.Proofs.Resolution.Candidates
import TestImpact.Proofs.Resolution.Order
import TestImpact.Proofs.Selection
import TestImpact.Proofs.Selection.EarlyEnds
import TestImpact.Proofs.Selection.Joined
import TestImpact.Proofs.Selection.Reuse
import TestImpact.Proofs.Settings.BadFiles
import TestImpact.Proofs.Settings.FailedSaves
import TestImpact.Proofs.Settings.Runs
import TestImpact.Proofs.Settings.Store
import TestImpact.Proofs.Source.Agreement
import TestImpact.Proofs.Source.Callee
import TestImpact.Proofs.Source.Callers
import TestImpact.Proofs.Source.Definitions
import TestImpact.Proofs.Source.Expression
import TestImpact.Proofs.Source.Functions
import TestImpact.Proofs.Source.Nesting
import TestImpact.Proofs.Source.NodePositions
import TestImpact.Proofs.Source.Position
import TestImpact.Proofs.Source.Statement
import TestImpact.Proofs.Source.Statements
import TestImpact.Proofs.Source.TreePositions
import TestImpact.Proofs.Source.Walk
import TestImpact.Proofs.Source.Yields
import TestImpact.Proofs.SourceRoots
import TestImpact.Proofs.Text.Ascending
import TestImpact.Proofs.Text.Composed
import TestImpact.Proofs.Text.Dotted
import TestImpact.Proofs.Text.Lines
import TestImpact.Proofs.Text.Utf8
import TestImpact.Proofs.Toml.Ordered
import TestImpact.Proofs.Toml.Written
import TestImpact.Resolution
import TestImpact.Selection
import TestImpact.Settings.Basic
import TestImpact.Settings.Places
import TestImpact.Settings.Store
import TestImpact.Source.Backend
import TestImpact.Source.Dialect
import TestImpact.Source.Expression
import TestImpact.Source.Lexeme
import TestImpact.Source.Literal
import TestImpact.Source.Node
import TestImpact.Source.Outline
import TestImpact.Source.Parse
import TestImpact.Source.Pattern
import TestImpact.Source.Statement
import TestImpact.Source.Token
import TestImpact.Source.Tree
import TestImpact.Source.TreeOutline
import TestImpact.Source.Visitor
import TestImpact.SourceRoots
import TestImpact.Text.Ascending
import TestImpact.Text.Capital
import TestImpact.Text.CodePoint
import TestImpact.Text.Compatibility.Combining
import TestImpact.Text.Compatibility.Composed
import TestImpact.Text.Compatibility.Decomposition
import TestImpact.Text.Digit
import TestImpact.Text.Dotted
import TestImpact.Text.Identifier
import TestImpact.Text.Letter
import TestImpact.Text.Lines
import TestImpact.Text.Printable
import TestImpact.Text.Utf8
import TestImpact.Text.Width
import TestImpact.Toml.Document
import TestImpact.Toml.Fault
import TestImpact.Toml.Field
import TestImpact.Toml.Item
import TestImpact.Toml.Line
import TestImpact.Toml.Moment
import TestImpact.Toml.Number
import TestImpact.Toml.Quoted
import TestImpact.Toml.Value
import TestImpact.Toml.Write
import TestImpact.VersionControl

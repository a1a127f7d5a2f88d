import SourceOutline.BaseName
import SourceOutline.CommandLine.Arguments
import SourceOutline.CommandLine.Run
import SourceOutline.Decimal.Layout
import SourceOutline.Decimal.Shortest
import SourceOutline.Declaration.Kind
import SourceOutline.Declaration.Modifier
import SourceOutline.Declaration.Policy
import SourceOutline.Declaration.TypeName
import SourceOutline.Diagnostic
import SourceOutline.Extraction
import SourceOutline.Failure
import SourceOutline.Journal
import SourceOutline.Json.Basic
import SourceOutline.Json.Printer
import SourceOutline.Json.Reader
import SourceOutline.Log.Entry
import SourceOutline.Log.Line
import SourceOutline.Log.Shown
import SourceOutline.Main
import SourceOutline.Model.Element
import SourceOutline.Model.Registry
import SourceOutline.Outline.Contribution
import SourceOutline.Outline.Walk
import SourceOutline.Path
import SourceOutline.Project.Basic
import SourceOutline.Project.FileTree
import SourceOutline.Project.Reader
import SourceOutline.Proofs.Journal
import SourceOutline.Proofs.Model.Planting
import SourceOutline.Proofs.Model.Preorder
import SourceOutline.Proofs.Outline.Contribution
import SourceOutline.Proofs.Outline.Forest
import SourceOutline.Proofs.Outline.Layout
import SourceOutline.Proofs.Outline.Recursion
import SourceOutline.Proofs.Outline.Visibility
import SourceOutline.Proofs.Scope.Agreement
import SourceOutline.Proofs.Scope.Aliases
import SourceOutline.Proofs.Scope.Convention
import SourceOutline.Proofs.Scope.Declared
import SourceOutline.Proofs.Scope.Grouping
import SourceOutline.Proofs.Scope.Standing
import SourceOutline.Proofs.Scope.Table
import SourceOutline.QualifiedName
import SourceOutline.Scope.Binding
import SourceOutline.Scope.Declared
import SourceOutline.Scope.Lookup
import SourceOutline.Scope.Symbol
import SourceOutline.Settings.Json
import SourceOutline.Settings.Load
import SourceOutline.Settings.Problem
import SourceOutline.Settings.Value
import SourceOutline.Syntax.Document
import SourceOutline.Syntax.Node
import SourceOutline.Syntax.Reader
import SourceOutline.Text.Basic
import SourceOutline.Text.Literal
import SourceOutline.Text.Numeral
import SourceOutline.Text.Utf8
import SourceOutline.Web.Application
import SourceOutline.Web.Body
import SourceOutline.Web.Url
import SourceOutline.Proofs.Scope.Pursuit
import SourceOutline.Proofs.Scope.Resolution
import SourceOutline.Proofs.Scope.Enclosing
import SourceOutline.Proofs.BaseName
import SourceOutline.Proofs.Scope.Transparency
import SourceOutline.Proofs.Syntax.WellFormed
import SourceOutline.Proofs.Scope.Total
import SourceOutline.Proofs.Outline.Total
import SourceOutline.Proofs.Extraction
import SourceOutline.Proofs.Scope.Exported
import SourceOutline.Proofs.Outline.Sequence
import SourceOutline.Proofs.Diagnostics
import SourceOutline.Proofs.Outline.Failure
import SourceOutline.Proofs.Parallel
import SourceOutline.Proofs.Scope.Twins
import SourceOutline.Proofs.Syntax.Expansion
import SourceOutline.Proofs.Scope.Expansion
import SourceOutline.Proofs.Scope.Block
import SourceOutline.Proofs.Scope.Correspondence
import SourceOutline.Proofs.Outline.Expansion
import SourceOutline.Proofs.Scope.Soundness
import SourceOutline.Proofs.Outline.Bases
import SourceOutline.Proofs.Scope.Likeness
import SourceOutline.Proofs.Scope.Place
import SourceOutline.Proofs.Outline.Bodies
import SourceOutline.Proofs.Scope.Reordering
import SourceOutline.Proofs.Outline.Reordering
import SourceOutline.Proofs.Model.History
import SourceOutline.Proofs.Project
import SourceOutline.Proofs.Outline.Comments
import SourceOutline.Proofs.Outline.Faithful
import SourceOutline.Proofs.Scope.Lexical
import SourceOutline.Proofs.Project.Discovery
import SourceOutline.Proofs.Project.Isolation
import SourceOutline.Proofs.Path
import SourceOutline.Proofs.Web
import SourceOutline.Proofs.BaseName.Imported
import SourceOutline.Proofs.BaseName.Ambient
import SourceOutline.Proofs.Scope.Spacing
import SourceOutline.Proofs.Outline.Remarks
import SourceOutline.Proofs.Declaration.Visibility
import SourceOutline.Proofs.Outline.Ownership
import SourceOutline.Proofs.Outline.Constructors
import SourceOutline.Proofs.Project.Exactness
import SourceOutline.Proofs.QualifiedName.Canonical
import SourceOutline.Proofs.CommandLine
import SourceOutline.Proofs.Json.Reader
import SourceOutline.Proofs.Outline.Naming
import SourceOutline.Proofs.Settings.CommaList
import SourceOutline.Proofs.Settings.Lists

import RestScaffold.Command.Arguments
import RestScaffold.Command.Error
import RestScaffold.Command.Header
import RestScaffold.Command.LogLevel
import RestScaffold.Command.Options
import RestScaffold.Command.Run
import RestScaffold.Command.Styling
import RestScaffold.Command.Usage
import RestScaffold.CommentTag
import RestScaffold.Declaration
import RestScaffold.Directive
import RestScaffold.File.Error
import RestScaffold.File.Path
import RestScaffold.File.Store
import RestScaffold.File.Tree
import RestScaffold.Generator.Basic
import RestScaffold.Generator.Ledger
import RestScaffold.Import.Line
import RestScaffold.Import.Path
import RestScaffold.Import.Table
import RestScaffold.Manifest.Decode
import RestScaffold.Manifest.Encode
import RestScaffold.Manifest.Json
import RestScaffold.Manifest.Load
import RestScaffold.Manifest.Node
import RestScaffold.Manifest.Yaml.Cursor
import RestScaffold.Manifest.Yaml.Layout
import RestScaffold.Manifest.Yaml.Scalar
import RestScaffold.Manifest.Yaml.Token
import RestScaffold.Manifest.Yaml.Tree
import RestScaffold.NameForm
import RestScaffold.Output
import RestScaffold.Package
import RestScaffold.Plan.Basic
import RestScaffold.Plan.Render
import RestScaffold.Plan.Source
import RestScaffold.RenderedFile
import RestScaffold.Scaffold.Basic
import RestScaffold.Scaffold.Bootstrap
import RestScaffold.Scaffold.PerType
import RestScaffold.Scaffold.Shared
import RestScaffold.ScaffoldError
import RestScaffold.Selection
import RestScaffold.Template.Basic
import RestScaffold.Template.Parse
import RestScaffold.Template.Render
import RestScaffold.Template.Token
import RestScaffold.Text.Basic
import RestScaffold.Text.Case
import RestScaffold.Text.CaseTable
import RestScaffold.Text.Sorted
import RestScaffold.TextMap
import RestScaffold.TypeName
import RestScaffold.Verb
import RestScaffold.Main
import RestScaffold.Proofs.Selection.Canonical
import RestScaffold.Proofs.Plan.MethodNames
import RestScaffold.Proofs.Text.Capital
import RestScaffold.Proofs.Template.WellTyped
import RestScaffold.Proofs.Plan.Source
import RestScaffold.Proofs.Scaffold.Templates
import RestScaffold.Proofs.Scaffold.Packages
import RestScaffold.Proofs.Scaffold.Places
import RestScaffold.Proofs.Scaffold.Layout
import RestScaffold.Proofs.Plan.Outcome
import RestScaffold.Proofs.Generator.Firing
import RestScaffold.Proofs.Plan.Files
import RestScaffold.Proofs.Declaration
import RestScaffold.Proofs.Plan.SourceOrder
import RestScaffold.Proofs.Plan.TypeOrder
import RestScaffold.Proofs.Import.Table
import RestScaffold.Proofs.Template.LocalNames
import RestScaffold.Proofs.Generator.LocalNames
import RestScaffold.Proofs.Import.Line
import RestScaffold.Proofs.Text.Case
import RestScaffold.Proofs.Text.Segments
import RestScaffold.Proofs.Template.RawNames
import RestScaffold.Proofs.Scaffold.Imports
import RestScaffold.Proofs.Scaffold.Server
import RestScaffold.Proofs.Plan.Imports
import RestScaffold.Proofs.Plan.ImportOrder
import RestScaffold.Proofs.Plan.ImportNames
import RestScaffold.Proofs.Plan.References
import RestScaffold.Proofs.Template.Symbols
import RestScaffold.Proofs.Scaffold.Methods
import RestScaffold.Proofs.Plan.Methods
import RestScaffold.Proofs.Universe
import RestScaffold.Proofs.Plan.PlannedTypes
import RestScaffold.Proofs.File.Tree
import RestScaffold.Proofs.File.Path
import RestScaffold.Proofs.File.Resolve
import RestScaffold.Proofs.File.Operations
import RestScaffold.Proofs.File.Store
import RestScaffold.Proofs.File.Closed
import RestScaffold.Proofs.Output.Backup
import RestScaffold.Proofs.Output.Run
import RestScaffold.Proofs.Output.Trace
import RestScaffold.Proofs.Output.Changes
import RestScaffold.Proofs.Output.Restore
import RestScaffold.Proofs.Output.Complete
import RestScaffold.Proofs.Output.Settled
import RestScaffold.Proofs.Output.Repeat
import RestScaffold.Proofs.Plan.Locations
import RestScaffold.Proofs.Plan.DistinctTargets
import RestScaffold.Proofs.Plan.ConfinedTargets
import RestScaffold.Proofs.Text.Cut
import RestScaffold.Proofs.Text.Blanks
import RestScaffold.Proofs.Text.Ascii
import RestScaffold.Proofs.Template.Scan
import RestScaffold.Proofs.Template.Steps
import RestScaffold.Proofs.Template.Grammar
import RestScaffold.Proofs.Template.Nesting
import RestScaffold.Proofs.Template.Accepted
import RestScaffold.Proofs.Template.Print
import RestScaffold.Proofs.Checks
import RestScaffold.Proofs.Directive.Line
import RestScaffold.Proofs.Directive.Block
import RestScaffold.Proofs.TextMap
import RestScaffold.Proofs.Import.Tracking
import RestScaffold.Proofs.Generator.Consultation
import RestScaffold.Proofs.Universe.Merge
import RestScaffold.Proofs.Manifest.Load
import RestScaffold.Proofs.Template.Append
import RestScaffold.Proofs.Template.Atoms
import RestScaffold.Proofs.Template.RangeExpansion
import RestScaffold.Proofs.Template.StaticCheck
import RestScaffold.Proofs.Template.VisibleKeys
import RestScaffold.Proofs.Generator.Concatenation
import RestScaffold.Proofs.Import.Identifier
import RestScaffold.Proofs.Import.Merge
import RestScaffold.Proofs.Directive.OtherTags
import RestScaffold.Proofs.TypeName
import RestScaffold.Proofs.Manifest.Encode
import RestScaffold.Proofs.FirstAppearances
import RestScaffold.Proofs.Template.Location
import RestScaffold.Proofs.Command.RequiredVerbs

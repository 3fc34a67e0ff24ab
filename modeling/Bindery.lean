import Bindery.Artifacts
import Bindery.CommandLine
import Bindery.Configuration
import Bindery.Crate.Code
import Bindery.Crate.Grammar.Basic
import Bindery.Crate.Grammar.Bound
import Bindery.Crate.Grammar.Declaration
import Bindery.Crate.Grammar.Expression
import Bindery.Crate.Grammar.Path
import Bindery.Crate.Grammar.Pattern
import Bindery.Crate.Grammar.Statement
import Bindery.Crate.Grammar.Type
import Bindery.Crate.Module
import Bindery.Crate.Printer
import Bindery.Crate.Reader
import Bindery.Crate.Render
import Bindery.Crate.Token
import Bindery.Crate.Type
import Bindery.Description.Basic
import Bindery.Description.Load
import Bindery.Double
import Bindery.FilePath
import Bindery.FileSystem
import Bindery.Index
import Bindery.Interchange.Node
import Bindery.Interchange.Render
import Bindery.Interchange.Type
import Bindery.Json.Basic
import Bindery.Json.Canonical
import Bindery.Json.Decode
import Bindery.Json.Printer
import Bindery.Json.Text
import Bindery.Main
import Bindery.NodePath
import Bindery.Operation.Basic
import Bindery.Operation.Decode
import Bindery.Operation.Defaults
import Bindery.Operation.Discriminators
import Bindery.Operation.Encode
import Bindery.Operation.Error
import Bindery.Operation.Rename
import Bindery.Operation.Seeds
import Bindery.Package.Module
import Bindery.Package.Printer
import Bindery.Package.Render
import Bindery.Package.Source
import Bindery.Package.Type
import Bindery.Pipeline
import Bindery.Proofs.Assignment
import Bindery.Proofs.Attachments
import Bindery.Proofs.Bindings
import Bindery.Proofs.CamelCase
import Bindery.Proofs.Comments.Lexical
import Bindery.Proofs.Comments.Printed
import Bindery.Proofs.Comments.Rendered
import Bindery.Proofs.Comments.Sources
import Bindery.Proofs.Commuting
import Bindery.Proofs.Defaults.Batch
import Bindery.Proofs.Defaults.Binding
import Bindery.Proofs.Defaults.Derived
import Bindery.Proofs.Defaults.History
import Bindery.Proofs.Defaults.Renamed
import Bindery.Proofs.Defaults.Run
import Bindery.Proofs.Defaults.Signatures
import Bindery.Proofs.Defaults.Sound
import Bindery.Proofs.Defaults.Typed
import Bindery.Proofs.Derivations
import Bindery.Proofs.Description.Acceptance
import Bindery.Proofs.Description.Conversion
import Bindery.Proofs.Description.Spellings
import Bindery.Proofs.Disk.Confined
import Bindery.Proofs.Disk.Files
import Bindery.Proofs.Disk.Guarded
import Bindery.Proofs.Disk.Left
import Bindery.Proofs.Disk.Parents
import Bindery.Proofs.Disk.Paths
import Bindery.Proofs.Disk.Permitted
import Bindery.Proofs.Disk.Runs
import Bindery.Proofs.Disk.Spared
import Bindery.Proofs.Disk.Sync
import Bindery.Proofs.Disk.Ways
import Bindery.Proofs.Disk.Written
import Bindery.Proofs.Encoding
import Bindery.Proofs.EnumValues
import Bindery.Proofs.Except
import Bindery.Proofs.Exports.Distinct
import Bindery.Proofs.Exports.Modules
import Bindery.Proofs.Exports.Names
import Bindery.Proofs.Exports.Stems
import Bindery.Proofs.Files.Apart
import Bindery.Proofs.Files.Closed
import Bindery.Proofs.Files.Declared
import Bindery.Proofs.Files.Kept
import Bindery.Proofs.Files.Names
import Bindery.Proofs.Files.Output
import Bindery.Proofs.Files.Paths
import Bindery.Proofs.Files.Plan
import Bindery.Proofs.Identifiers
import Bindery.Proofs.Index.Lookup
import Bindery.Proofs.Index.Positions
import Bindery.Proofs.Inline
import Bindery.Proofs.InputNames
import Bindery.Proofs.Interchange.Nodes
import Bindery.Proofs.Interchange.TypeLinks
import Bindery.Proofs.Interchange.ValueLinks
import Bindery.Proofs.Json.Forms
import Bindery.Proofs.Json.Reordered
import Bindery.Proofs.Links
import Bindery.Proofs.Loading
import Bindery.Proofs.Names
import Bindery.Proofs.NodePath
import Bindery.Proofs.Outline
import Bindery.Proofs.Publications.Again
import Bindery.Proofs.Publications.Documents
import Bindery.Proofs.Publications.History
import Bindery.Proofs.Publications.Independent
import Bindery.Proofs.Publications.Inner
import Bindery.Proofs.Reachable
import Bindery.Proofs.Recipes
import Bindery.Proofs.Refused
import Bindery.Proofs.Rename.Apply
import Bindery.Proofs.Rename.Builders
import Bindery.Proofs.Rename.Capture
import Bindery.Proofs.Rename.Clash
import Bindery.Proofs.Rename.Composition
import Bindery.Proofs.Rename.Plan
import Bindery.Proofs.Rename.Simultaneous
import Bindery.Proofs.Rename.Substitution
import Bindery.Proofs.Rename.Writing
import Bindery.Proofs.Repeating
import Bindery.Proofs.Resolution
import Bindery.Proofs.RoundTrip.Configuration
import Bindery.Proofs.RoundTrip.Tree
import Bindery.Proofs.Sequences
import Bindery.Proofs.Slots
import Bindery.Proofs.SortedMap
import Bindery.Proofs.Spans
import Bindery.Proofs.Tags
import Bindery.Proofs.Templates
import Bindery.Proofs.TypeLinks.Denoted
import Bindery.Proofs.TypeLinks.Emitted
import Bindery.Proofs.TypeLinks.Imports
import Bindery.Proofs.TypeLinks.Places
import Bindery.Proofs.TypeLinks.Resolved
import Bindery.Proofs.TypeLinks.Shadowed
import Bindery.Proofs.Views
import Bindery.Proofs.Vocabulary.Printed
import Bindery.Proofs.Vocabulary.Rendered
import Bindery.Proofs.WellFormed
import Bindery.Proofs.Words
import Bindery.Publication
import Bindery.Render.Bindings
import Bindery.Render.Error
import Bindery.Render.Layout
import Bindery.Render.Options
import Bindery.Sha256
import Bindery.Shell.Arithmetic
import Bindery.Shell.BuiltIn
import Bindery.Shell.Evaluation
import Bindery.Shell.Expansion
import Bindery.Shell.Launch
import Bindery.Shell.Process
import Bindery.Shell.Script
import Bindery.Shell.Source
import Bindery.Shell.State
import Bindery.Signature
import Bindery.SortedMap
import Bindery.Store
import Bindery.Text.Char
import Bindery.Text.Grid
import Bindery.Text.Regex
import Bindery.Text.Run
import Bindery.Text.Split
import Bindery.Text.Table.Cases
import Bindery.Text.Table.Display
import Bindery.Text.Table.Identifiers
import Bindery.Text.Table.Letters
import Bindery.Text.Utf8
import Bindery.Text.Words
import Bindery.Tree.Basic
import Bindery.Tree.Decode
import Bindery.Tree.Encode
import Bindery.Tree.Type
import Bindery.Tree.Value
import Bindery.Utility
import Bindery.Utility.Basic
import Bindery.Utility.Condition
import Bindery.Utility.Edit
import Bindery.Utility.Edit.Running
import Bindery.Utility.Edit.Script
import Bindery.Utility.Files
import Bindery.Utility.Find
import Bindery.Utility.Format
import Bindery.Utility.Lines
import Bindery.Utility.Search
import Bindery.Utility.Streams
import Bindery.Utility.Words
import Bindery.Word
import Bindery.Workspace

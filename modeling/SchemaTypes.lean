import SchemaTypes.Artifact
import SchemaTypes.Assignment
import SchemaTypes.Checked
import SchemaTypes.Code.Declaration
import SchemaTypes.Code.File
import SchemaTypes.Code.Rendering
import SchemaTypes.Code.Scope
import SchemaTypes.Column.BaseType
import SchemaTypes.Column.TypeNote
import SchemaTypes.Column.Uuid
import SchemaTypes.Column.Wrapped
import SchemaTypes.Command.Argument
import SchemaTypes.Command.Options
import SchemaTypes.Command.Reach
import SchemaTypes.Command.Reading
import SchemaTypes.Command.Run
import SchemaTypes.Command.Usage
import SchemaTypes.Decimal.Binary
import SchemaTypes.Decimal.Digits
import SchemaTypes.Decimal.Fixed
import SchemaTypes.Decimal.Reading
import SchemaTypes.Decimal.Shortest
import SchemaTypes.Digest
import SchemaTypes.Domain
import SchemaTypes.Export
import SchemaTypes.Failure
import SchemaTypes.File.Disk
import SchemaTypes.File.Path
import SchemaTypes.File.Tree
import SchemaTypes.Generation
import SchemaTypes.Issue
import SchemaTypes.Json.Printing
import SchemaTypes.Json.Reading
import SchemaTypes.Keyed
import SchemaTypes.Main
import SchemaTypes.Manifest
import SchemaTypes.Naming
import SchemaTypes.Notice
import SchemaTypes.Proofs.Bookkeeping
import SchemaTypes.Proofs.Checked
import SchemaTypes.Proofs.Cleaning
import SchemaTypes.Proofs.Column.TypeNote
import SchemaTypes.Proofs.Column.Wrapped
import SchemaTypes.Proofs.Command.Completion
import SchemaTypes.Proofs.Command.ExitCode
import SchemaTypes.Proofs.Command.Overrides
import SchemaTypes.Proofs.Command.Stages
import SchemaTypes.Proofs.Domain.Grouping
import SchemaTypes.Proofs.Domain.Names
import SchemaTypes.Proofs.Domain.Placement
import SchemaTypes.Proofs.Domain.Stability
import SchemaTypes.Proofs.DryRun
import SchemaTypes.Proofs.Export
import SchemaTypes.Proofs.FailedWrites
import SchemaTypes.Proofs.Faults
import SchemaTypes.Proofs.File.Agreement
import SchemaTypes.Proofs.File.Clearing
import SchemaTypes.Proofs.File.Directories
import SchemaTypes.Proofs.File.Entries
import SchemaTypes.Proofs.File.Growth
import SchemaTypes.Proofs.File.Names
import SchemaTypes.Proofs.File.Refusal
import SchemaTypes.Proofs.File.Replacement
import SchemaTypes.Proofs.File.Rewriting
import SchemaTypes.Proofs.File.Writing
import SchemaTypes.Proofs.Generation
import SchemaTypes.Proofs.Lookup
import SchemaTypes.Proofs.Naming
import SchemaTypes.Proofs.Naming.Idempotence
import SchemaTypes.Proofs.Naming.Inverse
import SchemaTypes.Proofs.Naming.Words
import SchemaTypes.Proofs.Overriding
import SchemaTypes.Proofs.Reexport
import SchemaTypes.Proofs.Regeneration
import SchemaTypes.Proofs.Relation.ForeignKeys
import SchemaTypes.Proofs.Relation.Identifier
import SchemaTypes.Proofs.Relation.Inference
import SchemaTypes.Proofs.Relation.Mutual
import SchemaTypes.Proofs.Relation.Pairing
import SchemaTypes.Proofs.Relation.Separation
import SchemaTypes.Proofs.Rendering.Columns
import SchemaTypes.Proofs.Rendering.Identifiers
import SchemaTypes.Proofs.Rendering.Imports
import SchemaTypes.Proofs.Rendering.JoinColumns
import SchemaTypes.Proofs.Rendering.Literals
import SchemaTypes.Proofs.Rendering.Locality
import SchemaTypes.Proofs.Rendering.Places
import SchemaTypes.Proofs.Rendering.References
import SchemaTypes.Proofs.Rendering.Sites
import SchemaTypes.Proofs.Rendering.Success
import SchemaTypes.Proofs.Rendering.TypeNotes
import SchemaTypes.Proofs.Reordering.Document
import SchemaTypes.Proofs.Reordering.ForeignKeys
import SchemaTypes.Proofs.Reordering.JoinTables
import SchemaTypes.Proofs.Reordering.Model
import SchemaTypes.Proofs.Reordering.Rendering
import SchemaTypes.Proofs.Settings
import SchemaTypes.Proofs.Sorting
import SchemaTypes.Proofs.Source.Datamodel
import SchemaTypes.Proofs.Source.Failures
import SchemaTypes.Proofs.Source.NormalForm
import SchemaTypes.Proofs.Source.Precedence
import SchemaTypes.Proofs.Source.Shapes
import SchemaTypes.Proofs.Text.Case
import SchemaTypes.Proofs.Text.CaseTable
import SchemaTypes.Proofs.Text.Lines
import SchemaTypes.Proofs.Text.Parentheses
import SchemaTypes.Proofs.Text.Quoted
import SchemaTypes.Proofs.Text.Split
import SchemaTypes.Proofs.Text.Word
import SchemaTypes.Proofs.Traversal
import SchemaTypes.Proofs.WriteModes
import SchemaTypes.Relation.ForeignKeys
import SchemaTypes.Relation.Identifier
import SchemaTypes.Relation.Pairing
import SchemaTypes.Report
import SchemaTypes.Schema.Document
import SchemaTypes.Schema.Enumeration
import SchemaTypes.Schema.Field
import SchemaTypes.Schema.JoinTable
import SchemaTypes.Schema.Kind
import SchemaTypes.Schema.Model
import SchemaTypes.Settings
import SchemaTypes.Source.Datamodel
import SchemaTypes.Source.Loading
import SchemaTypes.Source.Parsing
import SchemaTypes.Text.Blank
import SchemaTypes.Text.Case
import SchemaTypes.Text.CaseTable
import SchemaTypes.Text.Digit
import SchemaTypes.Text.HiddenTable
import SchemaTypes.Text.Lines
import SchemaTypes.Text.Quoted
import SchemaTypes.Text.Shown
import SchemaTypes.Text.Sorted
import SchemaTypes.Text.Spans
import SchemaTypes.Text.Split
import SchemaTypes.Text.Word
import SchemaTypes.Text.WordTable
import SchemaTypes.Value
import SchemaTypes.Value.Shown
import SchemaTypes.Yaml.Cursor
import SchemaTypes.Yaml.Fault
import SchemaTypes.Yaml.Node
import SchemaTypes.Yaml.Plain
import SchemaTypes.Yaml.Reading
import SchemaTypes.Yaml.Scalar
import SchemaTypes.Yaml.Scalars
import SchemaTypes.Yaml.Token

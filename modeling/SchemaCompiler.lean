import SchemaCompiler.Artifact
import SchemaCompiler.Artifact.Header
import SchemaCompiler.Artifact.Kind
import SchemaCompiler.Artifact.Layout
import SchemaCompiler.Artifact.Marshal
import SchemaCompiler.Artifact.Message
import SchemaCompiler.Artifact.Record
import SchemaCompiler.Artifact.Storage
import SchemaCompiler.Artifact.Table
import SchemaCompiler.Command
import SchemaCompiler.Command.Options
import SchemaCompiler.Command.Report
import SchemaCompiler.Compilation
import SchemaCompiler.Configuration
import SchemaCompiler.Decimal.Binary64
import SchemaCompiler.Decimal.Integer
import SchemaCompiler.Decimal.Shortest
import SchemaCompiler.Diagnostic
import SchemaCompiler.Dialect
import SchemaCompiler.Difference.Edit
import SchemaCompiler.Difference.Settled
import SchemaCompiler.Difference.Shortest
import SchemaCompiler.Difference.Unified
import SchemaCompiler.Digest
import SchemaCompiler.Document
import SchemaCompiler.FileSystem
import SchemaCompiler.FlatUnit
import SchemaCompiler.Json
import SchemaCompiler.Loading
import SchemaCompiler.Main
import SchemaCompiler.Markup.Attribute
import SchemaCompiler.Markup.Escape
import SchemaCompiler.Markup.Event
import SchemaCompiler.Markup.Reading
import SchemaCompiler.Name
import SchemaCompiler.Output
import SchemaCompiler.Path
import SchemaCompiler.Policy
import SchemaCompiler.Primitive
import SchemaCompiler.Profile
import SchemaCompiler.Schema
import SchemaCompiler.Schema.Flat
import SchemaCompiler.Schema.Tree
import SchemaCompiler.Schema.Arena
import SchemaCompiler.Settings.Decoding
import SchemaCompiler.Settings.Layers
import SchemaCompiler.Settings.Sources
import SchemaCompiler.Settings.Value
import SchemaCompiler.Similarity
import SchemaCompiler.Text.Alphabetic
import SchemaCompiler.Text.Blank
import SchemaCompiler.Text.CaseMap
import SchemaCompiler.Text.Cased
import SchemaCompiler.Text.GraphemeExtend
import SchemaCompiler.Text.Hexadecimal
import SchemaCompiler.Text.Lines
import SchemaCompiler.Text.Lowercase
import SchemaCompiler.Text.Numeric
import SchemaCompiler.Text.Quoted
import SchemaCompiler.Text.Run
import SchemaCompiler.Text.Unprintable
import SchemaCompiler.Text.Uppercase
import SchemaCompiler.Text.Utf8
import SchemaCompiler.Toml.Lexeme
import SchemaCompiler.Toml.Marked
import SchemaCompiler.Toml.Moment
import SchemaCompiler.Toml.Number
import SchemaCompiler.Toml.Reading
import SchemaCompiler.Toml.Table
import SchemaCompiler.Toml.Writing
import SchemaCompiler.Unit
import SchemaCompiler.Value.Field
import SchemaCompiler.Value.Held
import SchemaCompiler.Value.Record
import SchemaCompiler.Value.Tree
import SchemaCompiler.Yaml.Cursor
import SchemaCompiler.Yaml.Folding
import SchemaCompiler.Yaml.Node
import SchemaCompiler.Yaml.Property
import SchemaCompiler.Yaml.Reading
import SchemaCompiler.Yaml.Scalar
import SchemaCompiler.Yaml.Token
import SchemaCompiler.Yaml.Tokens
import SchemaCompiler.Yaml.Value
import SchemaCompiler.Proofs.Decimal.Integer
import SchemaCompiler.Proofs.Text.Utf8
import SchemaCompiler.Proofs.Value.Display
import SchemaCompiler.Proofs.Schema.Members
import SchemaCompiler.Proofs.Value.KeyOrder
import SchemaCompiler.Proofs.Value.Held
import SchemaCompiler.Proofs.Value.WellTyped
import SchemaCompiler.Proofs.Value.RoundTrip
import SchemaCompiler.Proofs.Schema.MapKey
import SchemaCompiler.Proofs.Strict
import SchemaCompiler.Proofs.Artifact.FieldLines
import SchemaCompiler.Proofs.Artifact.FieldOrder
import SchemaCompiler.Proofs.Value.Row
import SchemaCompiler.Proofs.Schema.Arena
import SchemaCompiler.Proofs.Schema.Exclusion
import SchemaCompiler.Proofs.Name.Characters
import SchemaCompiler.Proofs.Name.Path
import SchemaCompiler.Proofs.Schema.Places
import SchemaCompiler.Proofs.Artifact.Declarations
import SchemaCompiler.Proofs.Artifact.TypePaths
import SchemaCompiler.Proofs.Name.Capitals
import SchemaCompiler.Proofs.Artifact.DistinctTypes
import SchemaCompiler.Proofs.Schema.Fields
import SchemaCompiler.Proofs.Artifact.FlatNames
import SchemaCompiler.Proofs.Artifact.MessageGlue
import SchemaCompiler.Proofs.Artifact.Targets
import SchemaCompiler.Proofs.Schema.After
import SchemaCompiler.Proofs.Schema.Account
import SchemaCompiler.Proofs.Outcomes
import SchemaCompiler.Proofs.Value.Identity
import SchemaCompiler.Proofs.FileSystem.Frame
import SchemaCompiler.Proofs.FileSystem.Written
import SchemaCompiler.Proofs.Name.FirstOccurrences
import SchemaCompiler.Proofs.Schema.Declared
import SchemaCompiler.Proofs.Value.WellFormed
import SchemaCompiler.Proofs.Value.Merging
import SchemaCompiler.Proofs.Value.Writing
import SchemaCompiler.Proofs.Text.Cut
import SchemaCompiler.Proofs.Value.BoundedContent
import SchemaCompiler.Proofs.Value.Rereading
import SchemaCompiler.Proofs.Value.ValueList
import SchemaCompiler.Proofs.Decimal.Numeral
import SchemaCompiler.Proofs.Value.IntegerRange
import SchemaCompiler.Proofs.Name.Legal
import SchemaCompiler.Proofs.Value.Assignment
import SchemaCompiler.Proofs.Text.Lines
import SchemaCompiler.Proofs.Text.OneLine
import SchemaCompiler.Proofs.Artifact.Stamp
import SchemaCompiler.Proofs.FileSystem.Contained
import SchemaCompiler.Proofs.Artifact.Comments
import SchemaCompiler.Proofs.Artifact.UnitNames
import SchemaCompiler.Proofs.Artifact.WholeLines
import SchemaCompiler.Proofs.Markup.Documents
import SchemaCompiler.Proofs.Value.TotalOrder
import SchemaCompiler.Proofs.Text.Boundary
import SchemaCompiler.Proofs.Artifact.Nesting

import DataSchema.Attribute.Arguments
import DataSchema.Attribute.Basic
import DataSchema.Attribute.Markers
import DataSchema.Config.Basic
import DataSchema.Config.Expansion
import DataSchema.Declarations
import DataSchema.Error
import DataSchema.Field.Declaration
import DataSchema.Field.Lexical
import DataSchema.Field.Syntax
import DataSchema.Field.Tree
import DataSchema.Field.TypeToken
import DataSchema.FieldType
import DataSchema.Files.Location
import DataSchema.Files.Reading
import DataSchema.Files.Tree
import DataSchema.Json.Format
import DataSchema.Json.Lexer
import DataSchema.Json.Parser
import DataSchema.Json.Printer
import DataSchema.Json.Value
import DataSchema.Main
import DataSchema.Model
import DataSchema.OrderedMap
import DataSchema.Proofs.OrderedMap
import DataSchema.Proofs.Schema.Naming
import DataSchema.Property
import DataSchema.Relation.Cardinality
import DataSchema.Relation.Edge
import DataSchema.Relation.Inference
import DataSchema.Relation.Pairing
import DataSchema.Relation.Record
import DataSchema.Report
import DataSchema.Scalar
import DataSchema.Schema
import DataSchema.Source.Header
import DataSchema.Source.Line
import DataSchema.Source.LineRange
import DataSchema.Source.Outline
import DataSchema.Stored.Config
import DataSchema.Stored.Schema
import DataSchema.Stored.Types
import DataSchema.Text.Blank
import DataSchema.Text.CamelCase
import DataSchema.Text.CaseMapping
import DataSchema.Text.Grapheme
import DataSchema.Text.Hexadecimal
import DataSchema.Text.Quoted
import DataSchema.Text.Quoting
import DataSchema.Text.Table.Casing
import DataSchema.Text.Table.GraphemeBreak
import DataSchema.Text.Table.Ranges
import DataSchema.Text.Table.Unprintable
import DataSchema.Toml.Lexer
import DataSchema.Toml.Moment
import DataSchema.Toml.Number
import DataSchema.Toml.Parser
import DataSchema.Toml.Value
import DataSchema.Proofs.Relation.Buckets
import DataSchema.Proofs.Relation.Reciprocity
import DataSchema.Proofs.Relation.DeepKey
import DataSchema.Proofs.Relation.Ambiguity
import DataSchema.Proofs.Field.Grammar
import DataSchema.Proofs.Field.Decomposition
import DataSchema.Proofs.Json.RoundTrip
import DataSchema.Proofs.Stored.RoundTrip
import DataSchema.Proofs.Field.TypeToken
import DataSchema.Proofs.Source.Outline
import DataSchema.Proofs.Schema.References
import DataSchema.Proofs.Relation.Locality
import DataSchema.Proofs.Relation.Shape
import DataSchema.Proofs.Relation.Order
import DataSchema.Proofs.Source.Concatenation
import DataSchema.Proofs.Schema.Fragments
import DataSchema.Proofs.Schema.Markers
import DataSchema.Proofs.Field.GroupBody
import DataSchema.Proofs.Field.Writing
import DataSchema.Proofs.Schema.Printing
import DataSchema.Proofs.Attribute.Splitting
import DataSchema.Proofs.Attribute.Strings
import DataSchema.Proofs.Attribute.RelationName
import DataSchema.Proofs.Source.Blocks
import DataSchema.Proofs.Source.Lines
import DataSchema.Proofs.Schema.Lines
import DataSchema.Proofs.Schema.Contributions
import DataSchema.Proofs.Source.Insertion
import DataSchema.Proofs.Schema.Insertion
import DataSchema.Proofs.Text.Spacing
import DataSchema.Proofs.Source.NormalForm
import DataSchema.Proofs.Source.Emptying
import DataSchema.Proofs.Schema.Duplicates
import DataSchema.Proofs.Config.Substitution
import DataSchema.Proofs.Attribute.OuterQuotes
import DataSchema.Proofs.Config.Validation
import DataSchema.Proofs.Schema.Separation
import DataSchema.Proofs.Schema.HeaderNames
import DataSchema.Proofs.Schema.RawArguments
import DataSchema.Proofs.Numbered
import DataSchema.Proofs.Schema.Flags
import DataSchema.Proofs.Access.Basic
import DataSchema.Proofs.Access.Blocks
import DataSchema.Proofs.Access.Fields
import DataSchema.Proofs.Access.Pairing
import DataSchema.Proofs.Access.Compile
import DataSchema.Proofs.Relation.Matching

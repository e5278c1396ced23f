import Crosswalk.Batch.Policy
import Crosswalk.Batch.Pool
import Crosswalk.Batch.Report
import Crosswalk.Batch.Run
import Crosswalk.Catalog.Basic
import Crosswalk.Catalog.Codec
import Crosswalk.Catalog.Entry
import Crosswalk.Catalog.Load
import Crosswalk.Catalog.Table
import Crosswalk.Coercion
import Crosswalk.CommandLine.Arguments
import Crosswalk.CommandLine.Completion
import Crosswalk.CommandLine.Given
import Crosswalk.CommandLine.Options
import Crosswalk.CommandLine.Reader
import Crosswalk.CommandLine.Usage
import Crosswalk.Decoding.Decoder
import Crosswalk.Decoding.Outline
import Crosswalk.Engine
import Crosswalk.Error
import Crosswalk.Event
import Crosswalk.Failure
import Crosswalk.Fields
import Crosswalk.Files.Name
import Crosswalk.Files.Tree
import Crosswalk.Job.Basic
import Crosswalk.Job.Masks
import Crosswalk.Job.Transform
import Crosswalk.Job.Validate
import Crosswalk.Json.Basic
import Crosswalk.Json.Number
import Crosswalk.Json.Parse
import Crosswalk.Json.Reader
import Crosswalk.Json.Writer
import Crosswalk.Kind
import Crosswalk.Log.Filter
import Crosswalk.Log.Line
import Crosswalk.Log.Setup
import Crosswalk.Main
import Crosswalk.Mask.BuiltIn
import Crosswalk.Mask.Registry
import Crosswalk.Number.Binary64
import Crosswalk.Number.Shortest
import Crosswalk.Number.Word
import Crosswalk.Output.Console
import Crosswalk.Output.Format
import Crosswalk.Output.Summary
import Crosswalk.Path.Basic
import Crosswalk.Path.Parser
import Crosswalk.Program
import Crosswalk.Proofs.Batch.Accounting
import Crosswalk.Proofs.Batch.Grouping
import Crosswalk.Proofs.Batch.Interleaving
import Crosswalk.Proofs.Batch.Merge
import Crosswalk.Proofs.Batch.Outcomes
import Crosswalk.Proofs.Batch.Ranges
import Crosswalk.Proofs.Catalog.Acceptance
import Crosswalk.Proofs.Catalog.NamedFields
import Crosswalk.Proofs.Catalog.Table
import Crosswalk.Proofs.Catalog.WireFormat
import Crosswalk.Proofs.Coercion
import Crosswalk.Proofs.Decoding.Textual
import Crosswalk.Proofs.Engine.Blame
import Crosswalk.Proofs.Engine.Kinds
import Crosswalk.Proofs.Engine.LinkOrder
import Crosswalk.Proofs.Engine.Meaning
import Crosswalk.Proofs.Engine.Relevance
import Crosswalk.Proofs.Engine.SameKind
import Crosswalk.Proofs.Engine.Warnings
import Crosswalk.Proofs.Fields
import Crosswalk.Proofs.Files.Extension
import Crosswalk.Proofs.Files.Spelling
import Crosswalk.Proofs.Files.Tree
import Crosswalk.Proofs.Job.Basic
import Crosswalk.Proofs.Job.Overwriting
import Crosswalk.Proofs.Job.Transform
import Crosswalk.Proofs.Json.Escape
import Crosswalk.Proofs.Json.Induction
import Crosswalk.Proofs.Json.Layout
import Crosswalk.Proofs.Json.Number
import Crosswalk.Proofs.Json.Reading
import Crosswalk.Proofs.Mask.Idempotence
import Crosswalk.Proofs.Mask.Separators
import Crosswalk.Proofs.Mask.Title
import Crosswalk.Proofs.Number.Reading
import Crosswalk.Proofs.Number.Rounding
import Crosswalk.Proofs.Number.Shortest
import Crosswalk.Proofs.Number.Value
import Crosswalk.Proofs.Output.Stream
import Crosswalk.Proofs.Output.Table
import Crosswalk.Proofs.Path.FirstWrong
import Crosswalk.Proofs.Path.Grammar
import Crosswalk.Proofs.Path.KeptText
import Crosswalk.Proofs.Records
import Crosswalk.Proofs.ScalarText
import Crosswalk.Proofs.Text.Blank
import Crosswalk.Proofs.Text.CaseTable
import Crosswalk.Proofs.Text.PointBits
import Crosswalk.Proofs.Text.Respelling
import Crosswalk.Proofs.Traversal
import Crosswalk.Proofs.Yaml.Block
import Crosswalk.Proofs.Yaml.Characters
import Crosswalk.Proofs.Yaml.Document
import Crosswalk.Proofs.Yaml.Layout
import Crosswalk.Proofs.Yaml.Leaf
import Crosswalk.Proofs.Yaml.Place
import Crosswalk.Proofs.Yaml.Plain
import Crosswalk.Proofs.Yaml.Quoted
import Crosswalk.Proofs.Yaml.Reading
import Crosswalk.Proofs.Yaml.Scalar
import Crosswalk.Records
import Crosswalk.RunId
import Crosswalk.Settings
import Crosswalk.Text.Alphabetic
import Crosswalk.Text.Blank
import Crosswalk.Text.Case
import Crosswalk.Text.CaseTable
import Crosswalk.Text.CodePointSet
import Crosswalk.Text.Numeric
import Crosswalk.Text.Quoted
import Crosswalk.Text.Size
import Crosswalk.Text.Unprintable
import Crosswalk.Timestamp
import Crosswalk.Toml.Parse
import Crosswalk.Toml.Reader
import Crosswalk.Toml.Scalar
import Crosswalk.Toml.Table
import Crosswalk.Yaml.Parse
import Crosswalk.Yaml.Place
import Crosswalk.Yaml.Reader
import Crosswalk.Yaml.Scalar
import Crosswalk.Yaml.Text
import Crosswalk.Yaml.Writer

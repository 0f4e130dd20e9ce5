import ShapeSchema.Command.Arguments
import ShapeSchema.Command.Run
import ShapeSchema.Decode
import ShapeSchema.Double.Basic
import ShapeSchema.Double.Decimal
import ShapeSchema.Files.Glob
import ShapeSchema.Files.Path
import ShapeSchema.Files.System
import ShapeSchema.Files.Tree
import ShapeSchema.Jq.Builtin
import ShapeSchema.Jq.Eval
import ShapeSchema.Jq.Filter
import ShapeSchema.Jq.Format
import ShapeSchema.Jq.Lexer
import ShapeSchema.Jq.Outputs
import ShapeSchema.Jq.Parser
import ShapeSchema.Jq.Prelude
import ShapeSchema.Jq.Scope
import ShapeSchema.Jq.Syntax
import ShapeSchema.Jq.Value
import ShapeSchema.Json.Pointer
import ShapeSchema.Json.Printer
import ShapeSchema.Json.Scalar
import ShapeSchema.Json.Tree
import ShapeSchema.Json.Value
import ShapeSchema.Main
import ShapeSchema.Model.Declaration
import ShapeSchema.Model.Error
import ShapeSchema.Model.Kind
import ShapeSchema.Model.Registry
import ShapeSchema.Model.Shape
import ShapeSchema.Model.Trait
import ShapeSchema.OrderedMap
import ShapeSchema.Proofs.Compiler.Depth
import ShapeSchema.Proofs.Compiler.Failure
import ShapeSchema.Proofs.Compiler.Layout
import ShapeSchema.Proofs.Compiler.Mirror
import ShapeSchema.Proofs.JsonSchema.Equivalence
import ShapeSchema.Proofs.OrderedMap
import ShapeSchema.Proofs.Registry
import ShapeSchema.Proofs.Schema.Locality
import ShapeSchema.Proofs.Schema.Representation
import ShapeSchema.Proofs.Schema.Sharing
import ShapeSchema.Proofs.Text.Utf8
import ShapeSchema.Regex.Core
import ShapeSchema.Regex.Error
import ShapeSchema.Regex.Footprint
import ShapeSchema.Regex.Match
import ShapeSchema.Regex.Meaning
import ShapeSchema.Regex.Parser
import ShapeSchema.Regex.Pattern
import ShapeSchema.Regex.Scanner
import ShapeSchema.Regex.Syntax
import ShapeSchema.Schema.Compiler
import ShapeSchema.Schema.Constraint
import ShapeSchema.Schema.Emission
import ShapeSchema.Schema.Model
import ShapeSchema.Schema.Node
import ShapeSchema.Schema.Tool
import ShapeSchema.Schema.Violation
import ShapeSchema.Text.Quoted
import ShapeSchema.Text.Timestamp
import ShapeSchema.Unicode.Age
import ShapeSchema.Unicode.Casing
import ShapeSchema.Unicode.Category
import ShapeSchema.Unicode.CharSet
import ShapeSchema.Unicode.Lookup
import ShapeSchema.Unicode.Property
import ShapeSchema.Unicode.Script
import ShapeSchema.Unicode.Segmentation
import ShapeSchema.Proofs.Schema.Constraint
import ShapeSchema.Proofs.Schema.Success
import ShapeSchema.Proofs.JsonSchema.Closed
import ShapeSchema.Proofs.Json.Tree
import ShapeSchema.Proofs.Decode.Reading
import ShapeSchema.Proofs.Model.Text
import ShapeSchema.Proofs.Decode.Record
import ShapeSchema.Proofs.Model.Declaration
import ShapeSchema.Proofs.Model.Spelling
import ShapeSchema.Proofs.Model.Settled
import ShapeSchema.Proofs.Schema.Spelling
import ShapeSchema.Proofs.Schema.Request
import ShapeSchema.Proofs.Unicode.CharSet
import ShapeSchema.Proofs.Schema.Operation
import ShapeSchema.Proofs.Command.Run
import ShapeSchema.Proofs.Command.Validate
import ShapeSchema.Proofs.Command.Output
import ShapeSchema.Proofs.Compiler.Calls
import ShapeSchema.Proofs.Double.Rounding
import ShapeSchema.Proofs.Schema.Location
import ShapeSchema.Proofs.Schema.Range
import ShapeSchema.Proofs.Compiler.Preorder
import ShapeSchema.Proofs.Compiler.Route
import ShapeSchema.Proofs.Schema.Order
import ShapeSchema.Proofs.Schema.Reload
import ShapeSchema.Proofs.Compiler.Diagnostics
import ShapeSchema.Proofs.JsonSchema.Whole
import ShapeSchema.Proofs.Schema.Length
import ShapeSchema.Proofs.Model.Lookup
import ShapeSchema.Proofs.Model.Shape
import ShapeSchema.Proofs.Schema.Member
import ShapeSchema.Proofs.Schema.Tool
import ShapeSchema.Proofs.Command.Label
import ShapeSchema.Proofs.Command.Collation

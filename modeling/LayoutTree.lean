import LayoutTree.Fault
import LayoutTree.Geometry.Size
import LayoutTree.Geometry.Spacing
import LayoutTree.Host.Compose
import LayoutTree.Host.Descriptor
import LayoutTree.Host.Model
import LayoutTree.Host.Operation
import LayoutTree.Host.Registry
import LayoutTree.Host.Section
import LayoutTree.Json.Printer
import LayoutTree.Json.Reader
import LayoutTree.Logging
import LayoutTree.Number.Double
import LayoutTree.Number.Numeral
import LayoutTree.Number.Rounding
import LayoutTree.Number.Shortest
import LayoutTree.Number.Text
import LayoutTree.Proofs.Attribute
import LayoutTree.Proofs.Block.Conversion
import LayoutTree.Proofs.Block.Flattening
import LayoutTree.Proofs.Block.Frontier
import LayoutTree.Proofs.Block.Generator
import LayoutTree.Proofs.Block.Language
import LayoutTree.Proofs.Block.Span
import LayoutTree.Proofs.Block.Totality
import LayoutTree.Proofs.Builder.Barrier
import LayoutTree.Proofs.Builder.Building
import LayoutTree.Proofs.Builder.Configuration
import LayoutTree.Proofs.Builder.Declared
import LayoutTree.Proofs.Builder.Freezing
import LayoutTree.Proofs.Builder.History
import LayoutTree.Proofs.Builder.Machine
import LayoutTree.Proofs.Builder.Mutation
import LayoutTree.Proofs.Builder.Snapshot
import LayoutTree.Proofs.Calls.Compose
import LayoutTree.Proofs.Calls.Environment
import LayoutTree.Proofs.Calls.Footprint
import LayoutTree.Proofs.Calls.Host
import LayoutTree.Proofs.Calls.Once
import LayoutTree.Proofs.Calls.Tree
import LayoutTree.Proofs.Compose.Breaks
import LayoutTree.Proofs.Compose.Draft
import LayoutTree.Proofs.Compose.Engaging
import LayoutTree.Proofs.Compose.Engines
import LayoutTree.Proofs.Compose.Equivalence
import LayoutTree.Proofs.Compose.Expansion
import LayoutTree.Proofs.Compose.Hosting
import LayoutTree.Proofs.Compose.Making
import LayoutTree.Proofs.Compose.Plan
import LayoutTree.Proofs.Compose.Refusal
import LayoutTree.Proofs.Compose.Simulation
import LayoutTree.Proofs.Compose.Splitting
import LayoutTree.Proofs.Compose.Subitems
import LayoutTree.Proofs.Compose.Trace
import LayoutTree.Proofs.Compose.Uniformity
import LayoutTree.Proofs.Compose.Unrolled
import LayoutTree.Proofs.Construct
import LayoutTree.Proofs.Decoding.Choice
import LayoutTree.Proofs.Decoding.Costs
import LayoutTree.Proofs.Decoding.Counted
import LayoutTree.Proofs.Decoding.Plain
import LayoutTree.Proofs.Decoding.RoundTrip
import LayoutTree.Proofs.Decoding.Unfolding
import LayoutTree.Proofs.Descriptor.Built
import LayoutTree.Proofs.Descriptor.Encoding
import LayoutTree.Proofs.Descriptor.Equality
import LayoutTree.Proofs.Descriptor.JsonText
import LayoutTree.Proofs.Descriptor.Rebuild
import LayoutTree.Proofs.Descriptor.Serial
import LayoutTree.Proofs.Descriptor.Units
import LayoutTree.Proofs.Dict
import LayoutTree.Proofs.Double
import LayoutTree.Proofs.Exec
import LayoutTree.Proofs.Json.Grammar
import LayoutTree.Proofs.Json.Number
import LayoutTree.Proofs.Json.Numeral
import LayoutTree.Proofs.Json.Quoted
import LayoutTree.Proofs.Json.Reading
import LayoutTree.Proofs.Json.Scan
import LayoutTree.Proofs.Json.Written
import LayoutTree.Proofs.Lawful.Attribute
import LayoutTree.Proofs.Lawful.Basic
import LayoutTree.Proofs.Lawful.Compose
import LayoutTree.Proofs.Lawful.Construct
import LayoutTree.Proofs.Lawful.Ensures
import LayoutTree.Proofs.Lawful.Function
import LayoutTree.Proofs.Lawful.Host
import LayoutTree.Proofs.Lawful.Method
import LayoutTree.Proofs.Lawful.Script
import LayoutTree.Proofs.Lawful.Tree
import LayoutTree.Proofs.Reads
import LayoutTree.Proofs.Registry.Names
import LayoutTree.Proofs.Registry.Requests
import LayoutTree.Proofs.Same
import LayoutTree.Proofs.Section.Agreement
import LayoutTree.Proofs.Section.Description
import LayoutTree.Proofs.Section.Making
import LayoutTree.Proofs.Section.Rendering
import LayoutTree.Proofs.Section.Staging
import LayoutTree.Proofs.Setting.Flags
import LayoutTree.Proofs.Setting.Repeats
import LayoutTree.Proofs.Setting.Setup
import LayoutTree.Proofs.Yields
import LayoutTree.Script.Eval
import LayoutTree.Script.Expr
import LayoutTree.Script.Function.Engine
import LayoutTree.Script.Function.General
import LayoutTree.Script.Function.Layout
import LayoutTree.Script.Function.Setting
import LayoutTree.Script.Method
import LayoutTree.Script.Run
import LayoutTree.Script.View
import LayoutTree.Session.Argument
import LayoutTree.Session.Attribute
import LayoutTree.Session.Basic
import LayoutTree.Session.Cursor
import LayoutTree.Setting
import LayoutTree.Text.Basic
import LayoutTree.Text.Bytes
import LayoutTree.Text.Case
import LayoutTree.Text.Character
import LayoutTree.Text.Quoted
import LayoutTree.Tree.Block
import LayoutTree.Tree.Build
import LayoutTree.Tree.Builder
import LayoutTree.Tree.Flatten
import LayoutTree.Validation.Construct
import LayoutTree.Validation.Issue
import LayoutTree.Validation.Model
import LayoutTree.Validation.Reading
import LayoutTree.Value.Basic
import LayoutTree.Value.Identity
import LayoutTree.Value.Json
import LayoutTree.Value.Same
import LayoutTree.Value.Written

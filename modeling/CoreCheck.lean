import CoreCheck.Build
import CoreCheck.Capability
import CoreCheck.Capability.Manifest
import CoreCheck.Capability.ManifestText
import CoreCheck.Check.Batch
import CoreCheck.Check.Call
import CoreCheck.Check.Declare
import CoreCheck.Check.Expression
import CoreCheck.Check.Module
import CoreCheck.Check.Observation
import CoreCheck.Check.Operand
import CoreCheck.Check.Options
import CoreCheck.Check.Passage
import CoreCheck.Check.Pattern
import CoreCheck.Check.State
import CoreCheck.Check.Statement
import CoreCheck.Check.Traced
import CoreCheck.Check.TypeNames
import CoreCheck.Check.Verdict
import CoreCheck.CommandLine
import CoreCheck.CommandLine.Argument
import CoreCheck.Diagnostic
import CoreCheck.Diagnostic.Code
import CoreCheck.Diagnostic.Place
import CoreCheck.Diagnostic.Pretty
import CoreCheck.Diagnostic.Report
import CoreCheck.Diagnostic.Short
import CoreCheck.Document
import CoreCheck.Document.JsonText
import CoreCheck.Document.Msgpack
import CoreCheck.Duration
import CoreCheck.Effect
import CoreCheck.Host
import CoreCheck.Host.FileTree
import CoreCheck.Host.Script
import CoreCheck.Instant
import CoreCheck.Ir.Contract
import CoreCheck.Ir.Load
import CoreCheck.Ir.Reading
import CoreCheck.Ir.Syntax
import CoreCheck.Json
import CoreCheck.Main
import CoreCheck.Number.Binary64
import CoreCheck.Number.Decimal
import CoreCheck.Number.Power
import CoreCheck.Path
import CoreCheck.Project
import CoreCheck.Run
import CoreCheck.Scope.Symbol
import CoreCheck.Scope.Table
import CoreCheck.Scope.Validate
import CoreCheck.Settings
import CoreCheck.Span
import CoreCheck.Strings
import CoreCheck.Taint
import CoreCheck.Text.Blank
import CoreCheck.Text.Label
import CoreCheck.Text.Printable
import CoreCheck.Text.Quoted
import CoreCheck.Text.Split
import CoreCheck.Text.Style
import CoreCheck.Text.Utf8
import CoreCheck.Text.Width
import CoreCheck.Timer
import CoreCheck.Toml
import CoreCheck.Toml.Lexeme
import CoreCheck.Toml.Reader
import CoreCheck.Trace.Activity
import CoreCheck.Trace.Event
import CoreCheck.Trace.Format
import CoreCheck.Types.Aliases
import CoreCheck.Types.Arena
import CoreCheck.Types.Compatible
import CoreCheck.Types.Label
import CoreCheck.Types.Operator
import CoreCheck.Yaml
import CoreCheck.Proofs.Strings
import CoreCheck.Proofs.Taint.Order
import CoreCheck.Proofs.Types.Signature
import CoreCheck.Proofs.Types.Sound
import CoreCheck.Proofs.Types.Structure
import CoreCheck.Proofs.Types.Canonical
import CoreCheck.Proofs.Types.Fit
import CoreCheck.Proofs.Walk.Run
import CoreCheck.Proofs.Scope.View
import CoreCheck.Proofs.Scope.Lawful
import CoreCheck.Proofs.Scope.Calls
import CoreCheck.Proofs.Scope.Layers
import CoreCheck.Proofs.Walk.Growth
import CoreCheck.Proofs.Types.Same
import CoreCheck.Proofs.Walk.Blocks
import CoreCheck.Proofs.Walk.Lockstep
import CoreCheck.Proofs.Mirror.Alike
import CoreCheck.Proofs.Walk.Expressions
import CoreCheck.Proofs.Walk.Bindings
import CoreCheck.Proofs.Mirror.Expressions
import CoreCheck.Proofs.Mirror.Statements
import CoreCheck.Proofs.Passage.Owners
import CoreCheck.Proofs.Passage.Turns
import CoreCheck.Proofs.Passage.Order
import CoreCheck.Proofs.Passage.Independence
import CoreCheck.Proofs.Document.Form
import CoreCheck.Proofs.Document.Read
import CoreCheck.Proofs.Document.Integers
import CoreCheck.Proofs.Document.Tree
import CoreCheck.Proofs.Document.Formats
import CoreCheck.Proofs.Document.Nulls
import CoreCheck.Proofs.Levels.Kept
import CoreCheck.Proofs.Levels.Written
import CoreCheck.Proofs.Levels.Read
import CoreCheck.Proofs.Passage.Options
import CoreCheck.Proofs.Path.Along
import CoreCheck.Proofs.Path.Tracks
import CoreCheck.Proofs.Path.Sound
import CoreCheck.Proofs.Walk.Tasks
import CoreCheck.Proofs.Walk.Names
import CoreCheck.Proofs.Walk.Notable
import CoreCheck.Proofs.Walk.Calls
import CoreCheck.Proofs.Passage.Functions
import CoreCheck.Proofs.Passage.Capabilities
import CoreCheck.Proofs.Walk.Effects
import CoreCheck.Proofs.Passage.Anchors
import CoreCheck.Proofs.Types.Covered
import CoreCheck.Proofs.Types.Exposed
import CoreCheck.Proofs.Walk.Sealed
import CoreCheck.Proofs.Walk.Covered
import CoreCheck.Proofs.Path.Reached
import CoreCheck.Proofs.Match.Coverage
import CoreCheck.Proofs.Match.Bound
import CoreCheck.Proofs.Match.Exhaustive
import CoreCheck.Proofs.Passage.Discipline
import CoreCheck.Proofs.Path.Returns
import CoreCheck.Proofs.Batch.Schedule
import CoreCheck.Proofs.Types.Order
import CoreCheck.Proofs.Walk.Lists
import CoreCheck.Proofs.Aliases.Expansion
import CoreCheck.Proofs.Aliases.Resolved
import CoreCheck.Proofs.Aliases.Registered
import CoreCheck.Proofs.Aliases.Bound
import CoreCheck.Proofs.Aliases.Reordered
import CoreCheck.Proofs.Aliases.Holders
import CoreCheck.Proofs.Aliases.Depth
import CoreCheck.Proofs.Aliases.Cycles
import CoreCheck.Proofs.Records.Named
import CoreCheck.Proofs.Records.Fields
import CoreCheck.Proofs.Records.Complete
import CoreCheck.Proofs.Passage.Implied
import CoreCheck.Proofs.Taint.Lattice
import CoreCheck.Proofs.Walk.Operands
import CoreCheck.Proofs.Document.Fault
import CoreCheck.Proofs.Document.Refusal
import CoreCheck.Proofs.Document.Stack
import CoreCheck.Proofs.Document.Follows
import CoreCheck.Proofs.Document.Walked
import CoreCheck.Proofs.Document.Roles
import CoreCheck.Proofs.Document.Shorthand
import CoreCheck.Proofs.Capability.Policy
import CoreCheck.Proofs.Text.Pieces
import CoreCheck.Proofs.Files.Cleaned
import CoreCheck.Proofs.Files.Relative
import CoreCheck.Proofs.Settings.Sources
import CoreCheck.Proofs.Settings.Precedence
import CoreCheck.Proofs.Trace.Levels
import CoreCheck.Proofs.Trace.Brackets
import CoreCheck.Proofs.Passage.Observed
import CoreCheck.Proofs.Diagnostic.Lines
import CoreCheck.Proofs.Types.Normal
import CoreCheck.Proofs.Walk.Guarded
import CoreCheck.Proofs.Passage.Forms
import CoreCheck.Proofs.Types.Descent

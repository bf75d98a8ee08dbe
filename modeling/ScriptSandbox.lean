import ScriptSandbox.Capability.Filter
import ScriptSandbox.Capability.Surface
import ScriptSandbox.Capability.Table
import ScriptSandbox.Decimal.Notation
import ScriptSandbox.Decimal.Shortest
import ScriptSandbox.Event
import ScriptSandbox.Execution.Basic
import ScriptSandbox.Execution.Lifecycle
import ScriptSandbox.Execution.Outcome
import ScriptSandbox.Execution.Summary
import ScriptSandbox.Execution.World
import ScriptSandbox.Failure
import ScriptSandbox.HostError
import ScriptSandbox.Include.Expansion
import ScriptSandbox.Include.Line
import ScriptSandbox.Include.Provider
import ScriptSandbox.Include.Source
import ScriptSandbox.Json.Basic
import ScriptSandbox.Json.Decoder
import ScriptSandbox.Json.Parser
import ScriptSandbox.Json.Printer
import ScriptSandbox.Pattern.Ast
import ScriptSandbox.Pattern.Class
import ScriptSandbox.Pattern.Fault
import ScriptSandbox.Pattern.Footprint
import ScriptSandbox.Pattern.Grammar.Bracketed
import ScriptSandbox.Pattern.Grammar.Group
import ScriptSandbox.Pattern.Grammar.Nesting
import ScriptSandbox.Pattern.Grammar.Primitive
import ScriptSandbox.Pattern.Grammar.Sequence
import ScriptSandbox.Pattern.Meaning
import ScriptSandbox.Pattern.Node
import ScriptSandbox.Pattern.Reader
import ScriptSandbox.Pattern.Search
import ScriptSandbox.Proofs.Capability.Installation
import ScriptSandbox.Proofs.Execution.Backtrace
import ScriptSandbox.Proofs.Execution.Completion
import ScriptSandbox.Proofs.Execution.Control
import ScriptSandbox.Proofs.Execution.Delivery
import ScriptSandbox.Proofs.Execution.Foregone
import ScriptSandbox.Proofs.Execution.Likeness
import ScriptSandbox.Proofs.Execution.Prospect
import ScriptSandbox.Proofs.Execution.Serialization
import ScriptSandbox.Proofs.Execution.Step
import ScriptSandbox.Proofs.Execution.Verdict
import ScriptSandbox.Proofs.Include.Accounting
import ScriptSandbox.Proofs.Include.Availability
import ScriptSandbox.Proofs.Include.Catalogue
import ScriptSandbox.Proofs.Include.Contents
import ScriptSandbox.Proofs.Include.Course
import ScriptSandbox.Proofs.Include.Deepening
import ScriptSandbox.Proofs.Include.Depth
import ScriptSandbox.Proofs.Include.FixedPoint
import ScriptSandbox.Proofs.Include.LineEnding
import ScriptSandbox.Proofs.Include.Locality
import ScriptSandbox.Proofs.Include.Pieces
import ScriptSandbox.Proofs.Include.Precedence
import ScriptSandbox.Proofs.Include.Provenance
import ScriptSandbox.Proofs.Include.Reach
import ScriptSandbox.Proofs.Include.Visiting
import ScriptSandbox.Proofs.Json.Codec
import ScriptSandbox.Proofs.Sandbox.Agreement
import ScriptSandbox.Proofs.Sandbox.Callback
import ScriptSandbox.Proofs.Sandbox.Confidentiality
import ScriptSandbox.Proofs.Sandbox.Denial
import ScriptSandbox.Proofs.Sandbox.Handle
import ScriptSandbox.Proofs.Sandbox.Isolation
import ScriptSandbox.Proofs.Sandbox.Likeness
import ScriptSandbox.Proofs.Sandbox.Printing
import ScriptSandbox.Proofs.Sandbox.Run
import ScriptSandbox.Proofs.Sandbox.Snapshots
import ScriptSandbox.Proofs.Sandbox.Strictness
import ScriptSandbox.Proofs.Sandbox.Termination
import ScriptSandbox.Proofs.Sandbox.Undisturbed
import ScriptSandbox.Proofs.Script.Confinement
import ScriptSandbox.Proofs.Script.Requests
import ScriptSandbox.Proofs.Session.Bindings
import ScriptSandbox.Proofs.Session.History
import ScriptSandbox.Proofs.Text.LineEnding
import ScriptSandbox.Proofs.Text.Lines
import ScriptSandbox.Proofs.Text.Table
import ScriptSandbox.Proofs.Text.Trim
import ScriptSandbox.Sandbox.Basic
import ScriptSandbox.Sandbox.Schedule
import ScriptSandbox.Script.Ast
import ScriptSandbox.Script.Engine
import ScriptSandbox.Script.Error
import ScriptSandbox.Script.Evaluation.Access
import ScriptSandbox.Script.Evaluation.Call
import ScriptSandbox.Script.Evaluation.Expression
import ScriptSandbox.Script.Evaluation.Program
import ScriptSandbox.Script.Evaluation.State
import ScriptSandbox.Script.Evaluation.Statement
import ScriptSandbox.Script.Fault
import ScriptSandbox.Script.Grammar.Check
import ScriptSandbox.Script.Grammar.Expression
import ScriptSandbox.Script.Grammar.Program
import ScriptSandbox.Script.Grammar.Reading
import ScriptSandbox.Script.Grammar.Statement
import ScriptSandbox.Script.Interpreter
import ScriptSandbox.Script.Lexer
import ScriptSandbox.Script.Library
import ScriptSandbox.Script.Operator
import ScriptSandbox.Script.Position
import ScriptSandbox.Script.Purity
import ScriptSandbox.Script.Run
import ScriptSandbox.Script.Simplification.Block
import ScriptSandbox.Script.Simplification.Expression
import ScriptSandbox.Script.Simplification.Program
import ScriptSandbox.Script.Simplification.Statement
import ScriptSandbox.Script.Token
import ScriptSandbox.Script.Value
import ScriptSandbox.Session.Basic
import ScriptSandbox.Session.Builder
import ScriptSandbox.Session.Config
import ScriptSandbox.Span
import ScriptSandbox.Text.Blank
import ScriptSandbox.Text.CharSet
import ScriptSandbox.Text.Encoding
import ScriptSandbox.Text.NameSet
import ScriptSandbox.Text.Quoted
import ScriptSandbox.Unicode.Age
import ScriptSandbox.Unicode.Alphanumeric
import ScriptSandbox.Unicode.CaseFolding
import ScriptSandbox.Unicode.Category
import ScriptSandbox.Unicode.Name
import ScriptSandbox.Unicode.Printable
import ScriptSandbox.Unicode.Property
import ScriptSandbox.Unicode.Script
import ScriptSandbox.Unicode.ScriptExtension
import ScriptSandbox.Unicode.Segmentation
import ScriptSandbox.Unicode.Table
import ScriptSandbox.Unicode.Word

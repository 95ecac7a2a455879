import ScriptTrace.Opcode.Basic
import ScriptTrace.Opcode.Operation
import ScriptTrace.Instruction
import ScriptTrace.Stack.Basic
import ScriptTrace.Stack.Lemmas
import ScriptTrace.Verifier
import ScriptTrace.Report
import ScriptTrace.Effect.Basic
import ScriptTrace.Effect.Arithmetic
import ScriptTrace.Effect.Rearrange
import ScriptTrace.Effect.Equality
import ScriptTrace.Effect.Signature
import ScriptTrace.Effect.Execute
import ScriptTrace.Text.Blank
import ScriptTrace.Text.Decimal
import ScriptTrace.Text.Json
import ScriptTrace.Trace.Basic
import ScriptTrace.Trace.Execution
import ScriptTrace.Trace.Render
import ScriptTrace.Source
import ScriptTrace.CommandLine.Options
import ScriptTrace.CommandLine.Session
import ScriptTrace.Main
import ScriptTrace.Proofs.Effect.Listed
import ScriptTrace.Proofs.Arity
import ScriptTrace.Proofs.Trace.Stepwise
import ScriptTrace.Proofs.Trace.Composition
import ScriptTrace.Proofs.Trace.Shape
import ScriptTrace.Proofs.Frame
import ScriptTrace.Proofs.Provenance
import ScriptTrace.Proofs.Equivalence.Rearrange
import ScriptTrace.Proofs.Multisig.Reserved
import ScriptTrace.Proofs.Equivalence.Basic
import ScriptTrace.Proofs.Multisig.Operands
import ScriptTrace.Proofs.Equivalence.Arithmetic
import ScriptTrace.Proofs.Equivalence.Enforced
import ScriptTrace.Proofs.Leftover
import ScriptTrace.Proofs.Source.RoundTrip
import ScriptTrace.Proofs.Source.Grammar
import ScriptTrace.Proofs.Json.Faithful
import ScriptTrace.Proofs.Relabel.Effects
import ScriptTrace.Proofs.Relabel.Runs
import ScriptTrace.Proofs.Relabel.Markers
import ScriptTrace.Proofs.Relabel.Literals
import ScriptTrace.Proofs.Depth
import ScriptTrace.Proofs.Multisig.Shape
import ScriptTrace.Proofs.Json.Layout
import ScriptTrace.Proofs.Source.Formats
import ScriptTrace.Proofs.CommandLine.Session
import ScriptTrace.Proofs.Multisig.Sets
import ScriptTrace.Proofs.Arithmetic
import ScriptTrace.Proofs.Source.Concatenation
import ScriptTrace.Proofs.Position
import ScriptTrace.Proofs.Stack.Refinement
import ScriptTrace.Proofs.Placeholder
import ScriptTrace.Proofs.CommandLine.Arguments
import ScriptTrace.Proofs.CommandLine.Interleaving

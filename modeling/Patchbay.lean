import Patchbay.Cli.Arguments
import Patchbay.Cli.FileSystem
import Patchbay.Cli.LogFilter
import Patchbay.Cli.Program
import Patchbay.Compiler.Compilation
import Patchbay.Compiler.Event
import Patchbay.Compiler.Session
import Patchbay.Compiler.Sink
import Patchbay.Diagnostic.Columns
import Patchbay.Diagnostic.Row
import Patchbay.Diagnostic.Snippet
import Patchbay.Diagnostic.Window
import Patchbay.Instruction.Basic
import Patchbay.Instruction.Decoder
import Patchbay.Instruction.Document
import Patchbay.Instruction.Listing
import Patchbay.Instruction.Wire
import Patchbay.Json
import Patchbay.Main
import Patchbay.Number.Binary64
import Patchbay.Number.Layout
import Patchbay.Number.Reading
import Patchbay.Number.Shortest
import Patchbay.Opcode
import Patchbay.Palette
import Patchbay.RecordBuilder
import Patchbay.Script.Assignment
import Patchbay.Script.Command
import Patchbay.Script.Fault
import Patchbay.Script.Parser
import Patchbay.Source.Fault
import Patchbay.Source.Lines
import Patchbay.Source.Reader
import Patchbay.Text.Alphanumeric
import Patchbay.Text.Blank
import Patchbay.Text.Columns
import Patchbay.Text.Digits
import Patchbay.Text.Hidden
import Patchbay.Text.Quoted
import Patchbay.Text.Ranges
import Patchbay.Text.Utf8
import Patchbay.Value.Basic
import Patchbay.Value.Codec
import Patchbay.Value.FixPoint
import Patchbay.Value.Rejection
import Patchbay.Value.Tag
import Patchbay.Proofs.Text.Utf8
import Patchbay.Proofs.Source.Lines
import Patchbay.Proofs.Script.Construct
import Patchbay.Proofs.Compiler.Feeding
import Patchbay.Proofs.Script.Grammar
import Patchbay.Proofs.Script.Resumption
import Patchbay.Proofs.Compiler.Streaming
import Patchbay.Proofs.Instruction.Readers
import Patchbay.Proofs.Instruction.WireFormat
import Patchbay.Proofs.Script.WellFormed
import Patchbay.Proofs.Compiler.Meaning
import Patchbay.Proofs.Script.Quotes
import Patchbay.Proofs.Compiler.Contract
import Patchbay.Proofs.Compiler.Course
import Patchbay.Proofs.Compiler.Delivery
import Patchbay.Proofs.Compiler.Interruption
import Patchbay.Proofs.Compiler.Reruns
import Patchbay.Proofs.Compiler.Mirroring
import Patchbay.Proofs.Compiler.Accounting
import Patchbay.Proofs.Number.Rounding
import Patchbay.Proofs.Number.Shortest
import Patchbay.Proofs.Number.ReadBack
import Patchbay.Proofs.Number.Quantity
import Patchbay.Proofs.Number.Arithmetic
import Patchbay.Proofs.Value.FixPoint
import Patchbay.Proofs.Value.Accuracy
import Patchbay.Proofs.Value.Texts
import Patchbay.Proofs.Value.Integers
import Patchbay.Proofs.Value.Inverse
import Patchbay.Proofs.Script.Assignments
import Patchbay.Proofs.Script.Printed
import Patchbay.Proofs.Compiler.Relisting
import Patchbay.Proofs.Compiler.Calls
import Patchbay.Proofs.Compiler.Breakdown
import Patchbay.Proofs.Source.Reading
import Patchbay.Proofs.Compiler.Buffering
import Patchbay.Proofs.Compiler.Concatenation
import Patchbay.Proofs.Cli.Files
import Patchbay.Proofs.Cli.FileToFile
import Patchbay.Proofs.Script.Layout
import Patchbay.Proofs.Compiler.Relayout
import Patchbay.Proofs.Compiler.Progress
import Patchbay.Proofs.Instruction.Truncation
import Patchbay.Proofs.Instruction.Iteration
import Patchbay.Proofs.Compiler.UpdateForms
import Patchbay.Proofs.Source.Transparency
import Patchbay.Proofs.Lifecycle
import Patchbay.Proofs.Instruction.Coloring
import Patchbay.Proofs.Compiler.Repetition
import Patchbay.Proofs.Diagnostic.Marks

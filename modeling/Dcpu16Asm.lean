import Dcpu16Asm.Assembly
import Dcpu16Asm.Bench.Program
import Dcpu16Asm.Bench.Suite
import Dcpu16Asm.Command
import Dcpu16Asm.Error
import Dcpu16Asm.Instruction.Basic
import Dcpu16Asm.Instruction.Parse
import Dcpu16Asm.Item
import Dcpu16Asm.Literal
import Dcpu16Asm.Main
import Dcpu16Asm.Operand.Basic
import Dcpu16Asm.Operand.Parse
import Dcpu16Asm.Program
import Dcpu16Asm.Source
import Dcpu16Asm.Text.CharClasses
import Dcpu16Asm.Text.Lines
import Dcpu16Asm.Text.Quoted
import Dcpu16Asm.Proofs.FirstPass
import Dcpu16Asm.Proofs.SecondPass
import Dcpu16Asm.Proofs.Resolution
import Dcpu16Asm.Decode
import Dcpu16Asm.Proofs.Streaming
import Dcpu16Asm.Proofs.Decoding
import Dcpu16Asm.Proofs.Failures
import Dcpu16Asm.Proofs.Relocation
import Dcpu16Asm.Proofs.WordRange
import Dcpu16Asm.Proofs.OperandForms
import Dcpu16Asm.Proofs.Renaming
import Dcpu16Asm.Proofs.LineReading
import Dcpu16Asm.Proofs.BenchmarkBlocks
import Dcpu16Asm.Proofs.BenchmarkRuns
import Dcpu16Asm.Proofs.LayoutInvariant
import Dcpu16Asm.Proofs.DumpReading

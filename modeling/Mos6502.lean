import Mos6502.Bus.SinglePage
import Mos6502.Bus.Recorded
import Mos6502.Image.Grammar
import Mos6502.Journal
import Mos6502.Main
import Mos6502.Proofs.InstructionSet
import Mos6502.Proofs.Listening
import Mos6502.Proofs.Run
import Mos6502.Proofs.Slices
import Mos6502.Proofs.ImageText
import Mos6502.Proofs.Session
import Mos6502.Proofs.Trace
import Mos6502.Proofs.Footprint
import Mos6502.Proofs.Coherence
import Mos6502.Proofs.SharedBudget
import Mos6502.Proofs.CycleTotal
import Mos6502.Proofs.ByteWrites
import Mos6502.Proofs.LastWriter
import Mos6502.Proofs.ImageParts
import Mos6502.Proofs.ControlFlow
import Mos6502.Proofs.Numeral
import Mos6502.Proofs.Quotation
import Mos6502.Proofs.Diagnostics
import Mos6502.Proofs.Invocation
import Mos6502.Proofs.Debits
import Mos6502.Proofs.Guards
import Mos6502.Proofs.Traffic
import Mos6502.Proofs.ReadSet
import Mos6502.Proofs.Reports
import Mos6502.Proofs.UnknownBytes
import Mos6502.Proofs.CallRing
import Mos6502.Proofs.LoadOrder
import Mos6502.Proofs.WordAccess
import Mos6502.Proofs.LetterCase
import Mos6502.Proofs.LineEdits
import Mos6502.Proofs.Layout
import Mos6502.Proofs.Printing
import Mos6502.Proofs.RegisterDump
import Mos6502.Proofs.InstructionStream

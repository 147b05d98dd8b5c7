import Mos6502.Opcode
import Mos6502.Processor

/-!
# What a machine reports

A machine reports resets, loaded images, the instructions that it executes and the bytes that it
passes over. Each record has a level and a message. What becomes of a record is up to the listener:
a journal keeps every one of them, and where nobody listens none is kept.
-/

namespace Mos6502

/-- A byte that was met in the place of an opcode and is none. -/
structure UnknownOpcode where
  opcode : Byte
  address : Address
  deriving DecidableEq, Repr

/-- The fault in words. -/
def UnknownOpcode.message (fault : UnknownOpcode) : String :=
  "instruction not handled: 0x" ++ Text.Hex.lower 2 fault.opcode.toNat ++ " at 0x" ++
    Text.Hex.lower 4 fault.address.toNat

/-- What became of one instruction. -/
inductive Event where
  | executed (address : Address) (opcode : Opcode)
  /-- A byte was no opcode and was passed over. -/
  | skipped (fault : UnknownOpcode)
  deriving DecidableEq, Repr

/-- The event of a step that began at an address. -/
def Event.ofOutcome (address : Address) : Except UnknownOpcode Opcode → Event
  | .ok opcode => .executed address opcode
  | .error fault => .skipped fault

/-- How much attention a record asks for. -/
inductive Level where
  | trace
  | debug
  | warn
  deriving DecidableEq, Repr

/-- Something that a machine reports. -/
inductive Record where
  | reset
  | loaded (segments : Nat)
  | ran (event : Event)
  deriving DecidableEq, Repr

namespace Record

/-- The level of a record. -/
def level : Record → Level
  | reset => .debug
  | loaded _ => .debug
  | ran (.executed _ _) => .trace
  | ran (.skipped _) => .warn

/-- The record in words. -/
def message : Record → String
  | reset =>
    "reset: pc=0x" ++ Text.Hex.lower 4 Processor.initial.pc.toNat ++ " sp=0x" ++
      Text.Hex.lower 4 Processor.initial.sp.toNat
  | loaded segments => "loaded " ++ toString segments ++ " segment(s)"
  | ran (.executed address opcode) =>
    "0x" ++ Text.Hex.lower 4 address.toNat ++ " " ++ opcode.mnemonic
  | ran (.skipped fault) => fault.message

/-- The event that a record tells of, if it tells of an instruction. -/
def event? : Record → Option Event
  | ran event => some event
  | _ => none

end Record

/-- Those who hear what a machine reports. -/
class Listener (τ : Type) where
  /-- What becomes of a listener that hears a record. -/
  hear : Record → τ → τ

/-- Nobody listens. -/
instance : Listener Unit where
  hear _ nobody := nobody

/-- A listener that keeps every record. -/
structure Journal where
  /-- The records so far, the latest first. -/
  latest : List Record
  deriving DecidableEq, Repr

namespace Journal

/-- The journal before any record. -/
def empty : Journal := ⟨[]⟩

/-- The records so far, in order. -/
def records (journal : Journal) : List Record := journal.latest.reverse

instance : Listener Journal where
  hear record journal := ⟨record :: journal.latest⟩

@[simp]
theorem records_empty : empty.records = [] := rfl

@[simp]
theorem records_hear (record : Record) (journal : Journal) :
    (Listener.hear record journal).records = journal.records ++ [record] := List.reverse_cons

end Journal

end Mos6502

import Mos6502.Budget
import Mos6502.Bus.Basic
import Mos6502.Journal

/-!
# The machine and its bus cycles

A machine is a processor, the byte store that it drives, the budget that pays for its cycles, and
whoever listens to its reports. Every byte that the processor moves costs a cycle, and so does every
internal operation. The budget is debited and never consulted here, and the running total of the
processor is left alone.
-/

namespace Mos6502

/-- A processor, the store on its bus, what it may still spend, and who hears what it reports, which
is nobody if nothing is said about it. -/
structure Machine (σ : Type) (τ : Type := Unit) where
  processor : Processor
  memory : σ
  budget : Budget
  listener : τ := by exact ()
  deriving DecidableEq

namespace Machine

variable {σ τ : Type}

/-- Changes the registers alone. -/
def modifyProcessor (change : Processor → Processor) : StateM (Machine σ τ) Unit :=
  modify fun machine => { machine with processor := change machine.processor }

/-- Spends cycles. -/
def spend (cycles : Nat) : StateM (Machine σ τ) Unit :=
  modify fun machine => { machine with budget := machine.budget.debit cycles }

/-- Lets the store on the bus act, at no cost. -/
def onMemory {α : Type} (action : StateM σ α) : StateM (Machine σ τ) α :=
  fun machine =>
    let (answer, memory) := action.run machine.memory
    (answer, { machine with memory })

/-- An internal operation, without traffic on the bus. -/
def tick : StateM (Machine σ τ) Unit := spend 1

section

variable [Listener τ]

/-- The machine after its listener has heard a record. -/
def heard (machine : Machine σ τ) (record : Record) : Machine σ τ :=
  { machine with listener := Listener.hear record machine.listener }

/-- Lets the listener hear a record. -/
def report (record : Record) : StateM (Machine σ τ) Unit :=
  modify fun machine => machine.heard record

end

section

variable [ByteStore σ]

/-- Reads a byte of data. -/
def readByte (address : Address) : StateM (Machine σ τ) Byte := do
  tick
  onMemory (ByteStore.loadByte address)

/-- Writes a word of data. -/
def writeWord (address : Address) (word : Word) : StateM (Machine σ τ) Unit := do
  onMemory (ByteStore.storeWord address word)
  spend 2

/-- Takes the next byte of the instruction stream. -/
def fetchByte : StateM (Machine σ τ) Byte := do
  let address := (← get).processor.pc
  modifyProcessor fun processor => { processor with pc := address + 1 }
  readByte address

/-- Takes the next word of the instruction stream, low byte first. -/
def fetchWord : StateM (Machine σ τ) Word := do
  let low ← fetchByte
  let high ← fetchByte
  return Word.ofBytes low high

end

/-- The machine with somebody else listening. -/
def withListener {ρ : Type} (machine : Machine σ τ) (listener : ρ) : Machine σ ρ :=
  ⟨machine.processor, machine.memory, machine.budget, listener⟩

/-- What an action reports, in order. -/
def reports {α : Type} (machine : Machine σ τ) (action : StateM (Machine σ Journal) α) :
    List Record :=
  (action.run (machine.withListener .empty)).2.listener.records

@[simp]
theorem budget_heard [Listener τ] (machine : Machine σ τ) (record : Record) :
    (machine.heard record).budget = machine.budget := rfl

@[ext]
theorem ext {left right : Machine σ} (processor : left.processor = right.processor)
    (memory : left.memory = right.memory) (budget : left.budget = right.budget) : left = right := by
  cases left
  cases processor
  cases memory
  cases budget
  rfl

/-- Where nobody listens, a report changes nothing. -/
@[simp]
theorem heard_unit (machine : Machine σ) (record : Record) : machine.heard record = machine := rfl

end Machine

end Mos6502

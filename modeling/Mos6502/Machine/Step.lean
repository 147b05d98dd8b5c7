import Mos6502.Machine.Basic

/-!
# One instruction

A step fetches an opcode, reports it and carries the instruction out, whatever the budget holds. A
byte that is no opcode costs its fetch, changes nothing else and is the answer of the step, which
does not report it. What the step took from the budget is added to the processor's running total,
and it is the cost of the instruction unless the budget reached its floor (`budget_step`).
-/

namespace Mos6502.Machine

variable {σ τ : Type} [ByteStore σ]

/-- Fetches an operand byte in the given mode. -/
def operand : AddressingMode → StateM (Machine σ τ) Byte
  | .immediate => fetchByte
  | .zeroPage => do
    let address ← fetchByte
    readByte address.toUInt16
  | .zeroPageX => do
    let base ← fetchByte
    let address := base + (← get).processor.x
    tick
    readByte address.toUInt16
  | .absolute => do
    let address ← fetchWord
    readByte address

/-- Loads the accumulator. -/
def loadAccumulator (mode : AddressingMode) : StateM (Machine σ τ) Unit := do
  let value ← operand mode
  modifyProcessor (·.loadAccumulator value)

/-- Stores the address of its own last byte at the stack pointer, which stays where it is, and goes
on at the operand. -/
def jumpToSubroutine : StateM (Machine σ τ) Unit := do
  let target ← fetchWord
  let processor := (← get).processor
  writeWord processor.sp (processor.pc - 1)
  modifyProcessor fun processor => { processor with pc := target }
  tick

/-- Carries out an instruction whose opcode has been fetched. -/
def perform (opcode : Opcode) : StateM (Machine σ τ) Unit :=
  match opcode with
  | .ldaImmediate | .ldaZeroPage | .ldaZeroPageX => loadAccumulator opcode.mode
  | .jsr => jumpToSubroutine

@[simp]
theorem budget_fetchByte (machine : Machine σ τ) :
    (fetchByte.run machine).2.budget = machine.budget.debit 1 := rfl

theorem budget_perform (opcode : Opcode) (machine : Machine σ τ) :
    ((perform opcode).run machine).2.budget = machine.budget.debit (opcode.cycles - 1) := by
  cases opcode with
  | ldaImmediate => rfl
  | ldaZeroPage => exact machine.budget.debit_debit 1 1
  | ldaZeroPageX =>
    change ((machine.budget.debit 1).debit 1).debit 1 = machine.budget.debit 3
    simp
  | jsr =>
    change (((machine.budget.debit 1).debit 1).debit 2).debit 1 = machine.budget.debit 5
    simp

variable [Listener τ]

/-- Fetches an opcode, reports it and carries out its instruction, or answers with the byte. -/
def fetchAndPerform : StateM (Machine σ τ) (Except UnknownOpcode Opcode) := do
  let address := (← get).processor.pc
  let byte ← fetchByte
  match Opcode.ofByte? byte with
  | some opcode => do
    report (.ran (.executed address opcode))
    perform opcode
    return .ok opcode
  | none => return .error ⟨byte, address⟩

/-- Executes one instruction and adds what it spent to the running total. -/
def step : StateM (Machine σ τ) (Except UnknownOpcode Opcode) := do
  let before := (← get).budget
  let outcome ← fetchAndPerform
  let after := (← get).budget
  modifyProcessor fun processor =>
    { processor with cycles := processor.cycles + UInt64.ofInt (before.spent after) }
  return outcome

/-- The cycles that a step takes: those of its instruction, or the fetch of an unknown byte. -/
def cost : Except UnknownOpcode Opcode → Nat
  | .ok opcode => opcode.cycles
  | .error _ => 1

theorem cost_pos (outcome : Except UnknownOpcode Opcode) : 0 < cost outcome := by
  cases outcome with
  | ok opcode => cases opcode <;> decide
  | error fault => exact Nat.one_pos

theorem cost_le (outcome : Except UnknownOpcode Opcode) : cost outcome ≤ 6 := by
  cases outcome with
  | ok opcode => cases opcode <;> decide
  | error fault => exact Nat.le_of_ble_eq_true rfl

theorem fetchAndPerform_run_of_known {machine : Machine σ τ} {opcode : Opcode}
    (known : Opcode.ofByte? (fetchByte.run machine).1 = some opcode) :
    fetchAndPerform.run machine =
      (.ok opcode, ((perform opcode).run
        ((fetchByte.run machine).2.heard (.ran (.executed machine.processor.pc opcode)))).2) := by
  change StateT.run (match Opcode.ofByte? (fetchByte.run machine).1 with
    | some opcode => _
    | none => _) _ = _
  rw [known]
  rfl

theorem fetchAndPerform_run_of_unknown {machine : Machine σ τ}
    (unknown : Opcode.ofByte? (fetchByte.run machine).1 = none) :
    fetchAndPerform.run machine =
      (.error ⟨(fetchByte.run machine).1, machine.processor.pc⟩, (fetchByte.run machine).2) := by
  change StateT.run (match Opcode.ofByte? (fetchByte.run machine).1 with
    | some opcode => _
    | none => _) _ = _
  rw [unknown]
  rfl

theorem budget_fetchAndPerform (machine : Machine σ τ) :
    (fetchAndPerform.run machine).2.budget =
      machine.budget.debit (cost (fetchAndPerform.run machine).1) := by
  cases found : Opcode.ofByte? (fetchByte.run machine).1 with
  | none =>
    rw [fetchAndPerform_run_of_unknown found]
    rfl
  | some opcode =>
    rw [fetchAndPerform_run_of_known found]
    have positive : 0 < opcode.cycles := cost_pos (.ok opcode)
    simp only [budget_perform, budget_heard, budget_fetchByte, Budget.debit_debit, cost]
    congr 1
    omega

theorem step_run_fst (machine : Machine σ τ) :
    (step.run machine).1 = (fetchAndPerform.run machine).1 := rfl

theorem step_run_snd (machine : Machine σ τ) :
    (step.run machine).2 =
      let performed := (fetchAndPerform.run machine).2
      { performed with
        processor := { performed.processor with
          cycles := performed.processor.cycles +
            UInt64.ofInt (machine.budget.spent performed.budget) } } := rfl

/-- A step debits its cost, as one debit. -/
theorem budget_step (machine : Machine σ τ) :
    (step.run machine).2.budget = machine.budget.debit (cost (step.run machine).1) :=
  budget_fetchAndPerform machine

end Mos6502.Machine

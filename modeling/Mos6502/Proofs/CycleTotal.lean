import Mos6502.Image.Basic
import Mos6502.Machine.Reset
import Mos6502.Proofs.SharedBudget

/-!
# The running total

The running total is a third account beside the budget of the host and the value that an execution
returns. It gains what a step really takes from its budget, so all three agree: since the last reset
it is the sum of what the steps took and the executions returned, and no other operation is booked
(`Machine.cycles_operations`).
-/

namespace Mos6502

/-- Whatever a host may do with a machine between two resets. -/
inductive Operation where
  | make (call : Call)
  | execute (grant : Budget)
  | setBudget (budget : Budget)
  | setRegisters (change : Processor → Processor)
  | changeMemory (change : Memory → Memory)
  | load (image : Image)

/-- What an operation leaves in the books of the host. -/
inductive Entry where
  | called (receipt : Receipt) (before after : Budget)
  | executed (used : Int)
  | unpriced

/-- Does an operation and books it. A host cannot set the running total. -/
def Operation.perform : Operation → StateM (Machine Memory) Entry
  | make call => do
    let before := (← get).budget
    let receipt ← call.make
    return .called receipt before (← get).budget
  | execute grant => return .executed (← Machine.execute grant)
  | setBudget budget => do
    modify fun machine => { machine with budget }
    return .unpriced
  | setRegisters change => do
    Machine.modifyProcessor fun processor => { change processor with cycles := processor.cycles }
    return .unpriced
  | changeMemory change => do
    Machine.onMemory (modify change)
    return .unpriced
  | load image => do
    Machine.load image
    return .unpriced

/-- What a step took from its budget. -/
structure StepCharge (outcome : Except UnknownOpcode Opcode) (before after : Budget) : Prop where
  nonnegative : 0 ≤ before.spent after
  atMost : before.spent after ≤ 6
  solvent : Budget.floor + 6 ≤ before.remaining → before.spent after = Machine.cost outcome
  taken : before.spent after = min (Machine.cost outcome : Int) (before.remaining - Budget.floor)

namespace Entry

/-- What an entry adds to the running total. -/
def charge : Entry → Int
  | called ⟨.step, _⟩ before after => before.spent after
  | called _ _ _ => 0
  | executed used => used
  | unpriced => 0

def Fair : Entry → Prop
  | called ⟨.step, outcome⟩ before after => StepCharge outcome before after
  | _ => True

end Entry

/-- The two ways to come to a machine that has run nothing yet. -/
inductive Origin where
  | new
  | reset
  deriving DecidableEq, Repr

def Origin.begin : Origin → StateM (Machine Memory) Unit
  | new => Machine.modifyProcessor fun _ => .initial
  | reset => Machine.reset

theorem toNat_ofInt (number : Int) :
    ((UInt64.ofInt number).toNat : Int) = number % 2 ^ 64 := by
  have nonnegative := Int.emod_nonneg number (b := 2 ^ 64) (by decide)
  have bounded := Int.emod_lt_of_pos number (b := 2 ^ 64) (by decide)
  rw [UInt64.ofInt, UInt64.toNat_ofNat']
  omega

namespace Snapshot

theorem cycles_after (snapshot : Snapshot) (count : Nat) :
    (snapshot.after count).processor.cycles =
      snapshot.processor.cycles + .ofInt (snapshot.total count) := by
  induction count with
  | zero => exact (UInt64.add_zero _).symm
  | succ count ih =>
      have further : (snapshot.after (count + 1)).processor.cycles =
          (snapshot.after count).processor.cycles + .ofInt (snapshot.after count).price := by
        rw [after_add]
        exact Machine.cycles_next (snapshot.after count)
      rw [further, ih, total_add, total_one, Int.natCast_add, UInt64.ofInt_add, UInt64.add_assoc]

end Snapshot

namespace Machine

theorem stepCharge_step (machine : Machine Memory) :
    StepCharge (step.run machine).1 machine.budget (step.run machine).2.budget := by
  have taken : machine.budget.spent (step.run machine).2.budget =
      min (cost (step.run machine).1 : Int) (machine.budget.remaining - Budget.floor) := by
    rw [← Budget.spent_debit, ← budget_step]
  have cheap := cost_le (step.run machine).1
  have covered := machine.budget.floor_le
  constructor
  case taken => exact taken
  all_goals omega

theorem cycles_execute (machine : Machine Memory) (grant : Budget) :
    ((execute grant).run machine).2.processor.cycles =
      machine.processor.cycles + .ofInt ((execute grant).run machine).1 := by
  rcases exists_pays_execute machine grant with ⟨count, _, executed, _⟩
  rw [executed]
  exact machine.snapshot.cycles_after count

theorem cycles_perform_operation (machine : Machine Memory) (operation : Operation) :
    (operation.perform.run machine).2.processor.cycles =
      machine.processor.cycles + .ofInt (operation.perform.run machine).1.charge := by
  cases operation with
  | make call =>
      cases call with
      | step => exact (charges_step machine).total
      | _ => exact (UInt64.add_zero _).symm
  | execute grant => exact machine.cycles_execute grant
  | _ => exact (UInt64.add_zero _).symm

theorem fair_perform (machine : Machine Memory) (operation : Operation) :
    (operation.perform.run machine).1.Fair := by
  cases operation with
  | make call =>
      cases call with
      | step => exact machine.stepCharge_step
      | _ => trivial
  | _ => trivial

theorem cycles_session (machine : Machine Memory) (operations : List Operation) :
    let done := (operations.mapM Operation.perform).run machine
    done.2.processor.cycles =
        machine.processor.cycles + .ofInt (done.1.map Entry.charge).sum ∧
      ∀ entry ∈ done.1, entry.Fair := by
  apply session_induction Operation.perform
    (motive := fun machine entries after =>
      after.processor.cycles =
          machine.processor.cycles + .ofInt (entries.map Entry.charge).sum ∧
        ∀ entry ∈ entries, entry.Fair)
  case nil =>
      intro machine
      exact ⟨(UInt64.add_zero _).symm, by simp⟩
  case cons =>
      rintro first machine entries after ⟨total, fair⟩
      constructor
      · rw [total, cycles_perform_operation, List.map_cons, List.sum_cons, UInt64.ofInt_add,
          UInt64.add_assoc]
      · intro entry member
        rcases List.mem_cons.mp member with rfl | later
        · exact machine.fair_perform first
        · exact fair entry later

/-- Since the machine was new or reset, its running total is what the steps took from their budgets
and the executions returned. -/
theorem cycles_operations (machine : Machine Memory) (origin : Origin)
    (operations : List Operation) :
    let done := (operations.mapM Operation.perform).run (origin.begin.run machine).2
    (done.2.processor.cycles.toNat : Int) = (done.1.map Entry.charge).sum % 2 ^ 64 ∧
      ∀ entry ∈ done.1, entry.Fair := by
  intro done
  have begun : (origin.begin.run machine).2.processor.cycles = 0 := by cases origin <;> rfl
  rcases cycles_session (origin.begin.run machine).2 operations with ⟨total, fair⟩
  refine ⟨?_, fair⟩
  rw [begun, UInt64.zero_add] at total
  rw [total, toNat_ofInt]

end Machine

end Mos6502

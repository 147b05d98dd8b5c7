import Mos6502.Machine.Reset
import Mos6502.Proofs.Guards
import Mos6502.Proofs.Session

/-!
# Stretches of unknown bytes

A byte that is no opcode is passed over: the program counter moves by one, the byte takes one cycle,
and all else stays, the memory included. So a stretch of such bytes is passed over one by one
however long it is, even if it leads round the whole memory several times. An execution does so
without a word to its caller, while single steps report each byte with its address
(`Machine.execute_of_unknown`).
-/

namespace Mos6502.Machine

/-- The machine after it has passed over a number of bytes, as far as its budget tells of them. -/
def passedOver (machine : Machine Memory) (count : Nat) : Machine Memory where
  processor :=
    { machine.processor with
      pc := machine.processor.pc + .ofNat count
      cycles := machine.processor.cycles +
        .ofInt (machine.budget.spent (machine.budget.debit count)) }
  memory := machine.memory
  budget := machine.budget.debit count

theorem passedOver_zero (machine : Machine Memory) : machine.passedOver 0 = machine := by
  have nothing : machine.processor.cycles + .ofInt 0 = machine.processor.cycles :=
    UInt64.add_zero _
  simp [passedOver, Budget.spent, nothing]

theorem passedOver_add (machine : Machine Memory) (first second : Nat) :
    (machine.passedOver first).passedOver second = machine.passedOver (first + second) := by
  have counter : machine.processor.pc + .ofNat first + .ofNat second =
      machine.processor.pc + .ofNat (first + second) := by
    rw [UInt16.ofNat_add, UInt16.add_assoc]
  have total (before middle after : Budget) (cycles : UInt64) :
      cycles + .ofInt (before.spent middle) + .ofInt (middle.spent after) =
        cycles + .ofInt (before.spent after) := by
    have whole : before.spent middle + middle.spent after = before.spent after := by
      simp only [Budget.spent]
      omega
    rw [UInt64.add_assoc, ← UInt64.ofInt_add, whole]
  simp only [passedOver, counter, Budget.debit_debit, total]

/-- A step reports just the bytes that are no opcodes, with the address where they stand. -/
theorem step_run_fst_eq_error_iff {machine : Machine Memory} {fault : UnknownOpcode} :
    (step.run machine).1 = .error fault ↔
      machine.snapshot.code 0 ∉ ([0xA9, 0xA5, 0xB5, 0x20] : List Byte) ∧
        fault = ⟨machine.snapshot.code 0, machine.processor.pc⟩ := by
  rw [← Opcode.ofByte?_eq_none_iff, outcome_step, Snapshot.outcome]
  cases Opcode.ofByte? (machine.snapshot.code 0) with
  | none =>
      constructor
      · rintro ⟨⟩
        exact ⟨rfl, rfl⟩
      · rintro ⟨-, rfl⟩
        rfl
  | some opcode => simp

/-- Steps on a budget that they share lead through the machines that a run would look at. -/
theorem steps_run (machine : Machine Memory) (count : Nat) :
    ((List.replicate count Call.step).mapM Call.make).run machine =
      ((List.range count).map fun index => ⟨.step, (step.run (machine.atGuard index)).1⟩,
        machine.atGuard count) := by
  induction count generalizing machine with
  | zero => rfl
  | succ count ih =>
      have stepped : Call.step.make.run machine =
          (⟨.step, (step.run machine).1⟩, (step.run machine).2) := rfl
      rw [List.replicate_succ, run_mapM_cons, stepped, List.range_succ_eq_map, List.map_cons,
        List.map_map]
      dsimp only
      rw [ih]
      rfl

/-- None of a number of bytes from the program counter on is an opcode. -/
def Unknown (machine : Machine Memory) (count : Nat) : Prop :=
  ∀ index < count,
    machine.snapshot.code (.ofNat index) ∉ ([0xA9, 0xA5, 0xB5, 0x20] : List Byte)

theorem step_run_passedOver {machine : Machine Memory} {count : Nat}
    (unknown : machine.Unknown count) {index : Nat} (below : index < count) :
    step.run (machine.passedOver index) =
      (.error ⟨machine.snapshot.code (.ofNat index), machine.processor.pc + .ofNat index⟩,
        machine.passedOver (index + 1)) := by
  have code :
      (machine.passedOver index).snapshot.code 0 = machine.snapshot.code (.ofNat index) := by
    rw [Snapshot.code_zero]
    rfl
  have decoded := Opcode.ofByte?_eq_none_iff.mpr (unknown index below)
  rw [← code] at decoded
  rw [step_run_of_unknown decoded, code, ← passedOver_add]
  rfl

theorem atGuard_of_unknown {machine : Machine Memory} {count : Nat}
    (unknown : machine.Unknown count) {index : Nat} (within : index ≤ count) :
    machine.atGuard index = machine.passedOver index := by
  induction index with
  | zero => rw [passedOver_zero, atGuard_zero]
  | succ index ih =>
      rw [atGuard_succ, ih (Nat.le_of_succ_le within), step_run_passedOver unknown within]

theorem passes_of_unknown {machine : Machine Memory} {count : Nat}
    (unknown : machine.Unknown count) (granted : machine.budget.remaining = count) :
    Passes machine count where
  funded index below := by
    rw [atGuard_of_unknown unknown (Nat.le_of_lt below)]
    simp only [passedOver, Budget.remaining_debit, Budget.floor]
    omega
  exhausted := by
    rw [atGuard_of_unknown unknown (Nat.le_refl count)]
    simp only [passedOver, Budget.remaining_debit, Budget.floor]
    omega

/-- A budget no larger than a stretch of unknown bytes passes over as many of them as it has cycles.
As many steps, on whatever budget they share, report these bytes in order and come to the same
registers and the same memory. -/
theorem execute_of_unknown (machine : Machine Memory) (grant : Budget)
    (nonnegative : 0 ≤ grant.remaining)
    (unknown : ∀ index < grant.remaining.toNat,
      machine.memory.read (machine.processor.pc + .ofNat index) ∉
        ([0xA9, 0xA5, 0xB5, 0x20] : List Byte)) :
    let count := grant.remaining.toNat
    let counter := machine.processor.pc + .ofNat count
    let fault (index : Nat) : UnknownOpcode :=
      ⟨machine.memory.read (machine.processor.pc + .ofNat index),
        machine.processor.pc + .ofNat index⟩
    (execute grant).run machine =
        (grant.remaining,
          { machine with
            processor := { machine.processor with
              pc := counter
              cycles := machine.processor.cycles + .ofInt grant.remaining } }) ∧
      (∀ budget : Budget,
        let spent := budget.spent (budget.debit count)
        ((List.replicate count Call.step).mapM Call.make).run { machine with budget } =
          ((List.range count).map fun index => ⟨.step, .error (fault index)⟩,
            { processor := { machine.processor with
                pc := counter
                cycles := machine.processor.cycles + .ofInt spent }
              memory := machine.memory
              budget := budget.debit count })) ∧
      ∀ (other : Machine Memory) (error : UnknownOpcode), (step.run other).1 = .error error →
        other.memory.read other.processor.pc ∉ ([0xA9, 0xA5, 0xB5, 0x20] : List Byte) ∧
          error = ⟨other.memory.read other.processor.pc, other.processor.pc⟩ := by
  intro count counter fault
  have stretch (budget : Budget) : Unknown { machine with budget } count := unknown
  refine ⟨?_, ?_, ?_⟩
  · have granted : grant.remaining = count := by omega
    rw [execute_run_eq (passes_of_unknown (stretch grant) granted),
      atGuard_of_unknown (stretch grant) (Nat.le_refl count)]
    have left : (grant.debit count).remaining = 0 := by
      simp only [Budget.remaining_debit, Budget.floor]
      omega
    have spent : grant.spent (grant.debit count) = grant.remaining := by
      rw [Budget.spent, left, Int.sub_zero]
    simp only [passedOver, left, spent, Int.sub_zero]
    rfl
  · intro budget spent
    rw [steps_run, atGuard_of_unknown (stretch budget) (Nat.le_refl count)]
    refine Prod.ext ?_ rfl
    apply List.map_congr_left
    intro index member
    have below := List.mem_range.mp member
    rw [atGuard_of_unknown (stretch budget) (Nat.le_of_lt below),
      step_run_passedOver (stretch budget) below]
    rfl
  · intro other error reported
    rw [step_run_fst_eq_error_iff, Snapshot.code_zero] at reported
    exact reported

/-- Blank memory is no program, and its bytes are passed over beyond the last address. -/
theorem execute_of_unknown_initial :
    0 ≤ (Budget.clamp 70000).remaining ∧
      (∀ index < (Budget.clamp 70000).remaining.toNat,
        initial.memory.read (initial.processor.pc + .ofNat index) ∉
          ([0xA9, 0xA5, 0xB5, 0x20] : List Byte)) ∧
      ((execute (.clamp 70000)).run initial).1 = 70000 ∧
      ((execute (.clamp 70000)).run initial).2.processor.pc = 0x116C ∧
      ((execute (.clamp 70000)).run initial).2.memory = .blank := by
  have nonnegative : 0 ≤ (Budget.clamp 70000).remaining := by decide
  have unknown : ∀ index < (Budget.clamp 70000).remaining.toNat,
      initial.memory.read (initial.processor.pc + .ofNat index) ∉
        ([0xA9, 0xA5, 0xB5, 0x20] : List Byte) := by
    intro index _
    rw [initial, Memory.read_blank]
    decide
  have executed := (execute_of_unknown initial (.clamp 70000) nonnegative unknown).1
  refine ⟨nonnegative, unknown, ?_, ?_, ?_⟩ <;> rw [executed]
  · rfl
  · rfl
  · rfl

end Mos6502.Machine

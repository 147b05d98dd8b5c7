import Mos6502.Machine.Run
import Mos6502.Memory.Basic

/-!
# The instruction set

The reference tells what an instruction does to the registers and the memory. It speaks of what
stands in memory before the instruction, of addresses and of bits, and it knows no budget. A step
carries out the instruction that the reference names (`Machine.executes_step`) and charges its price
(`Machine.charges_step`), so what an instruction does depends on neither the budget nor the running
total. Later proofs take a step apart by the cases of the reference and do not open the handlers.
-/

namespace Mos6502

/-- The registers and the memory: all that an instruction sees and changes. -/
@[ext]
structure Snapshot where
  processor : Processor
  memory : Memory
  deriving DecidableEq

def Machine.snapshot (machine : Machine Memory) : Snapshot := ⟨machine.processor, machine.memory⟩

namespace Snapshot

/-- The byte at a distance from the program counter. -/
def code (snapshot : Snapshot) (distance : Address) : Byte :=
  snapshot.memory.read (snapshot.processor.pc + distance)

/-- The byte of page zero that an offset selects, however large it is. -/
def zeroPage (snapshot : Snapshot) (offset : Nat) : Byte :=
  snapshot.memory.read (.ofNat (offset % 256))

/-- What stands in the place of the opcode: an opcode, or a byte that is none. -/
def outcome (snapshot : Snapshot) : Except UnknownOpcode Opcode :=
  match Opcode.ofByte? (snapshot.code 0) with
  | some opcode => .ok opcode
  | none => .error ⟨snapshot.code 0, snapshot.processor.pc⟩

@[simp]
theorem code_zero (snapshot : Snapshot) :
    snapshot.code 0 = snapshot.memory.read snapshot.processor.pc := by
  rw [code, UInt16.add_zero]

theorem zeroPage_toNat (snapshot : Snapshot) (offset : Byte) :
    snapshot.zeroPage offset.toNat = snapshot.memory.read offset.toUInt16 := by
  rw [zeroPage, Nat.mod_eq_of_lt offset.toNat_lt]
  simp

/-- The sum of two bytes selects what their sum as bytes does. -/
theorem zeroPage_add (snapshot : Snapshot) (base index : Byte) :
    snapshot.zeroPage (base.toNat + index.toNat) =
      snapshot.memory.read (base + index).toUInt16 := by
  rw [← zeroPage_toNat, UInt8.toNat_add]
  simp [zeroPage]

end Snapshot

/-- An instruction of two bytes that brings a value into the accumulator. -/
structure Loads (before : Snapshot) (value : Byte) (after : Snapshot) : Prop where
  accumulator : after.processor.a = value
  counter : after.processor.pc = before.processor.pc + 2
  zero : after.processor.status.get .zero ↔ value = 0
  negative : after.processor.status.get .negative ↔ value.toNat.testBit 7
  otherFlags : ∀ flag, flag ≠ .zero → flag ≠ .negative →
    after.processor.status.get flag = before.processor.status.get flag
  indexX : after.processor.x = before.processor.x
  indexY : after.processor.y = before.processor.y
  stack : after.processor.sp = before.processor.sp
  memory : after.memory = before.memory

/-- An instruction of three bytes that leaves the address of its last one at the stack pointer and
goes on at the address in its other two, as they were before anything was written. -/
structure Calls (before after : Snapshot) : Prop where
  counter : after.processor.pc.toNat = (before.code 1).toNat + 256 * (before.code 2).toNat
  low : (after.memory.read before.processor.sp).toNat = (before.processor.pc + 2).toNat % 256
  high : (after.memory.read (before.processor.sp + 1)).toNat = (before.processor.pc + 2).toNat / 256
  otherCells : ∀ address, address ≠ before.processor.sp → address ≠ before.processor.sp + 1 →
    after.memory.read address = before.memory.read address
  accumulator : after.processor.a = before.processor.a
  indexX : after.processor.x = before.processor.x
  indexY : after.processor.y = before.processor.y
  stack : after.processor.sp = before.processor.sp
  flags : after.processor.status = before.processor.status

structure Skips (before after : Snapshot) : Prop where
  counter : after.processor.pc = before.processor.pc + 1
  accumulator : after.processor.a = before.processor.a
  indexX : after.processor.x = before.processor.x
  indexY : after.processor.y = before.processor.y
  stack : after.processor.sp = before.processor.sp
  flags : after.processor.status = before.processor.status
  memory : after.memory = before.memory

/-- The reference. The running total belongs to the price and is left open. -/
inductive Executes (before : Snapshot) : Except UnknownOpcode Opcode → Snapshot → Prop where
  | ldaImmediate {after : Snapshot} (opcode : before.code 0 = 0xA9)
      (loads : Loads before (before.code 1) after) : Executes before (.ok .ldaImmediate) after
  | ldaZeroPage {after : Snapshot} (opcode : before.code 0 = 0xA5)
      (loads : Loads before (before.zeroPage (before.code 1).toNat) after) :
      Executes before (.ok .ldaZeroPage) after
  | ldaZeroPageX {after : Snapshot} (opcode : before.code 0 = 0xB5)
      (loads : Loads before
        (before.zeroPage ((before.code 1).toNat + before.processor.x.toNat)) after) :
      Executes before (.ok .ldaZeroPageX) after
  | jsr {after : Snapshot} (opcode : before.code 0 = 0x20) (calls : Calls before after) :
      Executes before (.ok .jsr) after
  | unknown {after : Snapshot} (opcode : before.code 0 ∉ ([0xA9, 0xA5, 0xB5, 0x20] : List Byte))
      (skips : Skips before after) :
      Executes before (.error ⟨before.code 0, before.processor.pc⟩) after

/-- A price is taken from the budget, as far as the floor allows, and what was really taken is added
to the running total. -/
structure Charges (before : Machine Memory) (price : Nat) (after : Machine Memory) : Prop where
  budget : after.budget.remaining = max Budget.floor (before.budget.remaining - price)
  total : after.processor.cycles =
    before.processor.cycles + .ofInt (before.budget.remaining - after.budget.remaining)

theorem testBit_seven_iff (value : Byte) : value.toNat.testBit 7 ↔ 0x80 ≤ value := by
  have bound := value.toNat_lt
  rw [UInt8.le_iff_toNat_le, Nat.testBit_eq_decide_div_mod_eq, decide_eq_true_eq]
  change value.toNat / 128 % 2 = 1 ↔ 128 ≤ value.toNat
  omega

namespace Snapshot

def loaded (before : Snapshot) (value : Byte) (total : UInt64) : Snapshot where
  processor :=
    { ({ before.processor with pc := before.processor.pc + 2 }).loadAccumulator value with
      cycles := total }
  memory := before.memory

def called (before : Snapshot) (total : UInt64) : Snapshot where
  processor :=
    { before.processor with
      pc := Word.ofBytes (before.code 1) (before.code 2)
      cycles := total }
  memory := before.memory.writeWord before.processor.sp (before.processor.pc + 2)

def skipped (before : Snapshot) (total : UInt64) : Snapshot where
  processor :=
    { before.processor with
      pc := before.processor.pc + 1
      cycles := total }
  memory := before.memory

/-- The instruction at the program counter with a given running total after it. -/
def performed (before : Snapshot) (total : UInt64) : Snapshot :=
  match before.outcome with
  | .ok .ldaImmediate => before.loaded (before.code 1) total
  | .ok .ldaZeroPage => before.loaded (before.zeroPage (before.code 1).toNat) total
  | .ok .ldaZeroPageX =>
    before.loaded (before.zeroPage ((before.code 1).toNat + before.processor.x.toNat)) total
  | .ok .jsr => before.called total
  | .error _ => before.skipped total

end Snapshot

theorem loads_iff {before after : Snapshot} {value : Byte} :
    Loads before value after ↔ after = before.loaded value after.processor.cycles := by
  constructor
  · intro loads
    have status : after.processor.status =
        { before.processor.status with zero := value = 0, negative := 0x80 ≤ value } := by
      apply Status.ext_get
      intro flag
      cases flag with
      | zero => exact Bool.eq_iff_iff.mpr (loads.zero.trans decide_eq_true_iff.symm)
      | negative =>
          apply Bool.eq_iff_iff.mpr
          rw [loads.negative, testBit_seven_iff]
          exact decide_eq_true_iff.symm
      | _ => exact loads.otherFlags _ (by simp) (by simp)
    exact Snapshot.ext (Processor.ext loads.accumulator loads.indexX loads.indexY loads.counter
      loads.stack status rfl) loads.memory
  · intro same
    rw [same]
    constructor
    case zero => exact decide_eq_true_iff
    case negative => exact decide_eq_true_iff.trans (testBit_seven_iff value).symm
    case otherFlags =>
        intro flag notZero notNegative
        cases flag with
        | zero => exact absurd rfl notZero
        | negative => exact absurd rfl notNegative
        | _ => rfl
    all_goals rfl

theorem calls_iff {before after : Snapshot} :
    Calls before after ↔ after = before.called after.processor.cycles := by
  constructor
  · intro calls
    have counter : after.processor.pc = Word.ofBytes (before.code 1) (before.code 2) := by
      apply UInt16.toNat_inj.mp
      rw [calls.counter, Word.toNat_ofBytes]
    have memory : after.memory =
        before.memory.writeWord before.processor.sp (before.processor.pc + 2) := by
      apply Memory.ext_read
      intro address
      by_cases low : address = before.processor.sp
      · subst low
        apply UInt8.toNat_inj.mp
        rw [calls.low, Memory.read_writeWord_low, Word.toNat_low]
      · by_cases high : address = before.processor.sp + 1
        · subst high
          apply UInt8.toNat_inj.mp
          rw [calls.high, Memory.read_writeWord_high, Word.toNat_high]
        · rw [calls.otherCells address low high, Memory.read_writeWord_of_ne _ _ low high]
    exact Snapshot.ext (Processor.ext calls.accumulator calls.indexX calls.indexY counter
      calls.stack calls.flags rfl) memory
  · intro same
    rw [same]
    constructor
    case counter => exact Word.toNat_ofBytes _ _
    case low => simp [Snapshot.called]
    case high => simp [Snapshot.called]
    case otherCells =>
        intro address notLow notHigh
        exact Memory.read_writeWord_of_ne _ _ notLow notHigh
    all_goals rfl

theorem skips_iff {before after : Snapshot} :
    Skips before after ↔ after = before.skipped after.processor.cycles := by
  constructor
  · intro skips
    exact Snapshot.ext (Processor.ext skips.accumulator skips.indexX skips.indexY skips.counter
      skips.stack skips.flags rfl) skips.memory
  · intro same
    rw [same]
    constructor <;> rfl

namespace Executes

/-- The byte at the program counter decides the outcome. -/
theorem outcome_eq {before after : Snapshot} {outcome : Except UnknownOpcode Opcode}
    (executes : Executes before outcome after) : outcome = before.outcome := by
  unfold Snapshot.outcome
  cases executes with
  | ldaImmediate opcode _ => rw [opcode]; rfl
  | ldaZeroPage opcode _ => rw [opcode]; rfl
  | ldaZeroPageX opcode _ => rw [opcode]; rfl
  | jsr opcode _ => rw [opcode]; rfl
  | unknown opcode _ => rw [Opcode.ofByte?_eq_none_iff.mpr opcode]

theorem after_eq {before after : Snapshot} {outcome : Except UnknownOpcode Opcode}
    (executes : Executes before outcome after) :
    after = before.performed after.processor.cycles := by
  have decoded := executes.outcome_eq
  unfold Snapshot.performed
  rw [← decoded]
  cases executes with
  | ldaImmediate _ loads => exact loads_iff.mp loads
  | ldaZeroPage _ loads => exact loads_iff.mp loads
  | ldaZeroPageX _ loads => exact loads_iff.mp loads
  | jsr _ calls => exact calls_iff.mp calls
  | unknown _ skips => exact skips_iff.mp skips

/-- The reference leaves nothing open but the running total. -/
theorem unique {before left right : Snapshot}
    {leftOutcome rightOutcome : Except UnknownOpcode Opcode}
    (first : Executes before leftOutcome left) (second : Executes before rightOutcome right)
    (total : left.processor.cycles = right.processor.cycles) :
    leftOutcome = rightOutcome ∧ left = right := by
  constructor
  · exact first.outcome_eq.trans second.outcome_eq.symm
  · rw [first.after_eq, second.after_eq, total]

end Executes

namespace Machine

/-- Adds to the running total what a budget has lost since. -/
def settle (before : Budget) (machine : Machine Memory) : Machine Memory :=
  { machine with
    processor := { machine.processor with
      cycles := machine.processor.cycles + .ofInt (before.spent machine.budget) } }

theorem step_run (machine : Machine Memory) :
    step.run machine =
      ((fetchAndPerform.run machine).1,
        settle machine.budget (fetchAndPerform.run machine).2) := rfl

theorem fetchByte_run_fst (machine : Machine Memory) :
    (fetchByte.run machine).1 = machine.snapshot.code 0 := by
  rw [Snapshot.code_zero]
  rfl

theorem step_run_of_known {machine : Machine Memory} {opcode : Opcode}
    (known : Opcode.ofByte? (machine.snapshot.code 0) = some opcode) :
    step.run machine =
      (.ok opcode, settle machine.budget ((perform opcode).run (fetchByte.run machine).2).2) := by
  rw [← fetchByte_run_fst] at known
  rw [step_run, fetchAndPerform_run_of_known known, heard_unit]

theorem step_run_of_unknown {machine : Machine Memory}
    (unknown : Opcode.ofByte? (machine.snapshot.code 0) = none) :
    step.run machine =
      (.error ⟨machine.snapshot.code 0, machine.processor.pc⟩,
        settle machine.budget (fetchByte.run machine).2) := by
  rw [← fetchByte_run_fst] at unknown ⊢
  rw [step_run, fetchAndPerform_run_of_unknown unknown]

theorem executes_step (machine : Machine Memory) :
    Executes machine.snapshot (step.run machine).1 (step.run machine).2.snapshot := by
  -- The handlers move the program counter byte by byte, where the reference has one distance.
  have second : machine.processor.pc + 1 + 1 = machine.processor.pc + 2 :=
    UInt16.add_assoc _ 1 1
  have last : machine.processor.pc + 1 + 1 + 1 - 1 = machine.processor.pc + 2 := by
    rw [UInt16.add_sub_cancel, second]
  cases decoded : Opcode.ofByte? (machine.snapshot.code 0) with
  | none =>
      rw [step_run_of_unknown decoded]
      exact .unknown (Opcode.ofByte?_eq_none_iff.mp decoded) (skips_iff.mpr rfl)
  | some opcode =>
      rw [step_run_of_known decoded]
      have byte := (Opcode.ofByte?_eq_some_iff.mp decoded).symm
      cases opcode with
      | ldaImmediate =>
          refine .ldaImmediate byte (loads_iff.mpr ?_)
          exact Snapshot.ext (Processor.ext rfl rfl rfl second rfl rfl rfl) rfl
      | ldaZeroPage =>
          refine .ldaZeroPage byte (loads_iff.mpr ?_)
          rw [Snapshot.zeroPage_toNat]
          exact Snapshot.ext (Processor.ext rfl rfl rfl second rfl rfl rfl) rfl
      | ldaZeroPageX =>
          refine .ldaZeroPageX byte (loads_iff.mpr ?_)
          rw [Snapshot.zeroPage_add]
          exact Snapshot.ext (Processor.ext rfl rfl rfl second rfl rfl rfl) rfl
      | jsr =>
          refine .jsr byte (calls_iff.mpr ?_)
          refine Snapshot.ext (Processor.ext rfl rfl rfl ?_ rfl rfl rfl) ?_
          · exact congrArg (fun address => Word.ofBytes (machine.snapshot.code 1)
              (machine.memory.read address)) second
          · exact congrArg (machine.memory.writeWord machine.processor.sp) last

theorem cycles_perform (opcode : Opcode) (machine : Machine Memory) :
    ((perform opcode).run machine).2.processor.cycles = machine.processor.cycles := by
  cases opcode <;> rfl

theorem charges_step (machine : Machine Memory) :
    Charges machine (cost (step.run machine).1) (step.run machine).2 := by
  have budget := congrArg Budget.remaining (budget_step machine)
  refine ⟨budget, ?_⟩
  have performed : (fetchAndPerform.run machine).2.processor.cycles = machine.processor.cycles := by
    cases decoded : Opcode.ofByte? (fetchByte.run machine).1 with
    | none => rw [fetchAndPerform_run_of_unknown decoded]; rfl
    | some opcode =>
        rw [fetchAndPerform_run_of_known decoded]
        exact cycles_perform opcode _
  rw [step_run, settle, performed]
  rfl

/-- A step is an instruction of the reference together with its charge, and nothing else is. The
reference does not mention the budget and the charge does not mention the registers or the memory,
so no budget steers an instruction. -/
theorem step_run_eq_iff_executes {machine after : Machine Memory}
    {outcome : Except UnknownOpcode Opcode} :
    step.run machine = (outcome, after) ↔
      Executes machine.snapshot outcome after.snapshot ∧ Charges machine (cost outcome) after := by
  have executed := executes_step machine
  have charged := charges_step machine
  constructor
  · intro stepped
    rw [stepped] at executed charged
    exact ⟨executed, charged⟩
  · rintro ⟨executes, charges⟩
    have sameOutcome := executed.outcome_eq.trans executes.outcome_eq.symm
    rw [sameOutcome] at charged
    have budget : (step.run machine).2.budget = after.budget :=
      Budget.ext (charged.budget.trans charges.budget.symm)
    have total : (step.run machine).2.processor.cycles = after.processor.cycles := by
      rw [charged.total, charges.total, budget]
    have snapshot := (executed.unique executes total).2
    refine Prod.ext sameOutcome (Machine.ext ?_ ?_ budget)
    · exact congrArg Snapshot.processor snapshot
    · exact congrArg Snapshot.memory snapshot

end Machine

end Mos6502

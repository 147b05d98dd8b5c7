import Mathlib.Algebra.Order.Floor.Div
import Mathlib.Data.Fin.VecNotation
import Mathlib.GroupTheory.GroupAction.Ring
import Mathlib.Tactic.FinCases
import Mos6502.Proofs.Run

/-!
# Rings of calls

A ring of calls leads from each to the next and from the last to the first. If the stack lies apart
from their bytes, they are still in place after any number of calls (`CallsAround.writeWord`), so a
run goes round the ring until its budget is used up. Every call takes the same cycles, and where a
run ends is told by their number alone (`Machine.execute_around_ring`).
-/

namespace Mos6502

open Snapshot (Pays)

variable {length : Nat} [NeZero length] {ring : Fin length → Address}

/-- At each address of a ring stands a call of the next one, and the word at the stack pointer lies
apart from all of them. The ring may lead to one address more than once. -/
structure CallsAround (ring : Fin length → Address) (stack : Address) (memory : Memory) : Prop where
  opcode : ∀ index, memory.read (ring index) = 0x20
  low : ∀ index, memory.read (ring index + 1) = Word.low (ring (index + 1))
  high : ∀ index, memory.read (ring index + 2) = Word.high (ring (index + 1))
  apart : ∀ index, ∀ cell ∈ [stack, stack + 1],
    cell ∉ [ring index, ring index + 1, ring index + 2]

namespace CallsAround

theorem read_writeWord {stack : Address} {memory : Memory}
    (calls : CallsAround ring stack memory) (word : Word) (index : Fin length) {address : Address}
    (inside : address ∈ [ring index, ring index + 1, ring index + 2]) :
    (memory.writeWord stack word).read address = memory.read address := by
  apply Memory.read_writeWord_of_ne
  · rintro rfl
    exact calls.apart index address (by simp) inside
  · rintro rfl
    exact calls.apart index (stack + 1) (by simp) inside

/-- What a call leaves at the stack pointer harms no call of the ring. -/
theorem writeWord {stack : Address} {memory : Memory} (calls : CallsAround ring stack memory)
    (word : Word) : CallsAround ring stack (memory.writeWord stack word) where
  opcode index := by rw [calls.read_writeWord word index (by simp), calls.opcode]
  low index := by rw [calls.read_writeWord word index (by simp), calls.low]
  high index := by rw [calls.read_writeWord word index (by simp), calls.high]
  apart := calls.apart

end CallsAround

namespace Snapshot

/-- The snapshot after a number of calls around a ring. -/
def around (snapshot : Snapshot) (ring : Fin length → Address) (count : Nat) : Snapshot where
  processor :=
    { snapshot.processor with
      pc := ring (.ofNat length count)
      cycles := snapshot.processor.cycles + .ofNat (6 * count) }
  memory :=
    match count with
    | 0 => snapshot.memory
    | earlier + 1 =>
      snapshot.memory.writeWord snapshot.processor.sp (ring (.ofNat length earlier) + 2)

theorem price_of_call {snapshot : Snapshot} (call : snapshot.code 0 = 0x20) :
    snapshot.price = 6 := by
  rw [price, call]
  rfl

/-- Where a call stands that leads to a given address, it is the next instruction. -/
theorem next_of_call {snapshot : Snapshot} {target : Address} (call : snapshot.code 0 = 0x20)
    (low : snapshot.code 1 = Word.low target) (high : snapshot.code 2 = Word.high target) :
    snapshot.next =
      { processor := { snapshot.processor with
          pc := target
          cycles := snapshot.processor.cycles + 6 }
        memory :=
          snapshot.memory.writeWord snapshot.processor.sp (snapshot.processor.pc + 2) } := by
  have performed := (Machine.executes_next snapshot).after_eq
  have decoded : snapshot.outcome = .ok .jsr := by
    rw [outcome, call]
    rfl
  rw [Machine.cycles_next, price_of_call call, Snapshot.performed, decoded] at performed
  rw [performed, called, low, high, Word.ofBytes_low_high]
  rfl

end Snapshot

namespace CallsAround

variable {snapshot : Snapshot}

theorem around_zero (start : snapshot.processor.pc = ring 0) :
    snapshot.around ring 0 = snapshot := by
  refine Snapshot.ext (Processor.ext rfl rfl rfl start.symm rfl rfl ?_) rfl
  exact UInt64.add_zero _

theorem memory_around (calls : CallsAround ring snapshot.processor.sp snapshot.memory)
    (count : Nat) :
    CallsAround ring snapshot.processor.sp (snapshot.around ring count).memory := by
  cases count with
  | zero => exact calls
  | succ count => exact calls.writeWord _

theorem code_around (calls : CallsAround ring snapshot.processor.sp snapshot.memory)
    (count : Nat) : (snapshot.around ring count).code 0 = 0x20 := by
  rw [Snapshot.code_zero]
  exact (calls.memory_around count).opcode _

/-- The calls write one after the other to the same place, where the last one is seen. -/
theorem next_around (calls : CallsAround ring snapshot.processor.sp snapshot.memory)
    (count : Nat) :
    (snapshot.around ring count).next = snapshot.around ring (count + 1) := by
  have kept := calls.memory_around count
  have onward : Fin.ofNat length count + 1 = Fin.ofNat length (count + 1) := by
    apply Fin.ext
    simp [Fin.val_add]
  have total : snapshot.processor.cycles + .ofNat (6 * count) + 6 =
      snapshot.processor.cycles + .ofNat (6 * (count + 1)) := by
    rw [UInt64.add_assoc, Nat.mul_succ, UInt64.ofNat_add]
    rfl
  have stored (word : Word) :
      (snapshot.around ring count).memory.writeWord snapshot.processor.sp word =
        snapshot.memory.writeWord snapshot.processor.sp word := by
    cases count with
    | zero => rfl
    | succ earlier => exact snapshot.memory.writeWord_writeWord _ _ _
  rw [Snapshot.next_of_call (calls.code_around count) (kept.low _) (kept.high _), onward]
  refine Snapshot.ext (Processor.ext rfl rfl rfl rfl rfl rfl ?_) ?_
  · exact total
  · exact stored _

theorem after_eq_around (calls : CallsAround ring snapshot.processor.sp snapshot.memory)
    (start : snapshot.processor.pc = ring 0) (count : Nat) :
    snapshot.after count = snapshot.around ring count := by
  induction count with
  | zero => exact (around_zero start).symm
  | succ count ih =>
      rw [Snapshot.after_add, ih]
      exact calls.next_around count

theorem total_eq (calls : CallsAround ring snapshot.processor.sp snapshot.memory)
    (start : snapshot.processor.pc = ring 0) (count : Nat) : snapshot.total count = 6 * count := by
  induction count with
  | zero => rfl
  | succ count ih =>
      rw [Snapshot.total_add, Snapshot.total_one, ih, calls.after_eq_around start,
        Snapshot.price_of_call (calls.code_around count)]
      rfl

theorem pays (calls : CallsAround ring snapshot.processor.sp snapshot.memory)
    (start : snapshot.processor.pc = ring 0) (amount : Nat) :
    Pays snapshot amount (amount ⌈/⌉ 6) where
  enough := by
    have covered : amount ≤ 6 * (amount ⌈/⌉ 6) :=
      (ceilDiv_le_iff_le_mul (by decide)).mp (Nat.le_refl _)
    rw [calls.total_eq start]
    omega
  least fewer below := by
    have short : ¬amount ≤ 6 * fewer := fun covered =>
      absurd ((ceilDiv_le_iff_le_mul (by decide)).mpr covered) (Nat.not_le_of_lt below)
    rw [calls.total_eq start]
    omega

end CallsAround

namespace Machine

/-- A budget is spent on calls of six cycles each, the last of which may overdraw it. The run ends
as many calls further round the ring, with the return address of the last one at the stack. -/
theorem execute_around_ring (machine : Machine Memory) (ring : Fin length → Address)
    (calls : CallsAround ring machine.processor.sp machine.memory)
    (start : machine.processor.pc = ring 0) (grant : Budget) (funded : 0 < grant.remaining) :
    let count := grant.remaining.toNat ⌈/⌉ 6
    let spent := 6 * count
    let stack := machine.processor.sp
    let back := ring (.ofNat length (count - 1)) + 2
    let ended : Machine Memory :=
      { machine with
        processor := { machine.processor with
          pc := ring (.ofNat length count)
          cycles := machine.processor.cycles + .ofNat spent }
        memory := machine.memory.writeWord stack back }
    (execute grant).run machine = ((spent : Int), ended) ∧
      ended.memory.readWord stack = back ∧
      ∀ address, address ≠ stack → address ≠ stack + 1 →
        ended.memory.read address = machine.memory.read address := by
  intro count spent stack back ended
  have granted : (grant.remaining.toNat : Int) = grant.remaining :=
    Int.toNat_of_nonneg (Int.le_of_lt funded)
  have pays : Pays machine.snapshot grant.remaining count := by
    rw [← granted]
    exact CallsAround.pays calls start _
  refine ⟨?_, ?_, ?_⟩
  · obtain ⟨earlier, last⟩ : ∃ earlier, count = earlier + 1 := by
      apply Nat.exists_eq_succ_of_ne_zero
      intro none
      have := pays.eq_zero_iff.mp none
      omega
    rw [execute_run_of_pays pays, CallsAround.total_eq calls start,
      CallsAround.after_eq_around calls start]
    simp only [ended, back, spent, last]
    rfl
  · rw [Memory.readWord_eq, Memory.read_writeWord_low, Memory.read_writeWord_high,
      Word.ofBytes_low_high]
  · intro address notLow notHigh
    exact machine.memory.read_writeWord_of_ne _ notLow notHigh

/-- A machine at the first of two calls that lead to each other. The first one goes on past the
last address. -/
def callingInTurn : Machine Memory where
  processor := { Processor.initial with pc := 0xFFFE }
  memory := (Memory.blank.load 0xFFFE [0x20, 0x00, 0x40]).load 0x4000 [0x20, 0xFE, 0xFF]
  budget := .clamp 0

/-- The last call takes the run beyond the cycles that any budget can hold. -/
theorem execute_around_ring_callingInTurn :
    let ring : Fin 2 → Address := ![0xFFFE, 0x4000]
    CallsAround ring callingInTurn.processor.sp callingInTurn.memory ∧
      callingInTurn.processor.pc = ring 0 ∧
      0 < (Budget.clamp 2147483647).remaining ∧
      let executed := (execute (.clamp 2147483647)).run callingInTurn
      executed.1 = 2147483652 ∧ executed.2.processor.pc = 0xFFFE ∧
        executed.2.memory.readWord 0x0100 = 0x4002 := by
  intro ring
  have calls : CallsAround ring callingInTurn.processor.sp callingInTurn.memory := by
    constructor <;> intro index <;> fin_cases index <;>
      simp [ring, callingInTurn, Memory.read_write, Processor.initial, stackBase, Word.low,
        Word.high]
  have start : callingInTurn.processor.pc = ring 0 := rfl
  have funded : 0 < (Budget.clamp 2147483647).remaining := by decide
  rcases execute_around_ring callingInTurn ring calls start (.clamp 2147483647) funded with
    ⟨executed, back, _⟩
  refine ⟨calls, start, funded, ?_⟩
  rw [executed]
  exact ⟨rfl, rfl, back⟩

end Machine

end Mos6502

import Mos6502.Proofs.Footprint
import Mos6502.Proofs.Traffic

/-!
# What a run reads

A memory is seen by a run only at the addresses that the run loads from. A second memory that agrees
with the first at these addresses may differ anywhere else (`AgreeOn`): every instruction of the run
finds the same bytes in both, and what it stores it stores in both, so that the agreement lasts and
the two runs are one (`Machine.execute_eq_of_reads`).
-/

namespace Mos6502

open Snapshot (Pays)

/-- Snapshots that hold the same registers, and the same bytes at some addresses. -/
structure AgreeOn (addresses : List Address) (left right : Snapshot) : Prop where
  processor : left.processor = right.processor
  cells : ∀ address ∈ addresses, left.memory.read address = right.memory.read address

theorem Memory.read_writeWord_congr {left right : Memory} {address : Address}
    (same : left.read address = right.read address) (stack : Address) (word : Word) :
    (left.writeWord stack word).read address = (right.writeWord stack word).read address := by
  by_cases low : address = stack
  · subst low
    rw [read_writeWord_low, read_writeWord_low]
  · by_cases high : address = stack + 1
    · subst high
      rw [read_writeWord_high, read_writeWord_high]
    · rw [read_writeWord_of_ne _ _ low high, read_writeWord_of_ne _ _ low high, same]

namespace AgreeOn

variable {addresses : List Address} {left right : Snapshot}

theorem code_eq (agree : AgreeOn addresses left right) {distance : Address}
    (member : left.processor.pc + distance ∈ addresses) :
    left.code distance = right.code distance := by
  rw [Snapshot.code, Snapshot.code, ← agree.processor]
  exact agree.cells _ member

theorem outcome_eq (agree : AgreeOn addresses left right) (covered : left.reads ⊆ addresses) :
    left.outcome = right.outcome := by
  have member : left.processor.pc + 0 ∈ addresses := by
    apply covered
    rw [UInt16.add_zero, Snapshot.reads_eq]
    split <;> exact List.mem_cons_self
  rw [Snapshot.outcome, Snapshot.outcome, agree.code_eq member, agree.processor]

theorem performed (agree : AgreeOn addresses left right) (covered : left.reads ⊆ addresses)
    (total : UInt64) : AgreeOn addresses (left.performed total) (right.performed total) := by
  have decoded := agree.outcome_eq covered
  have loaded {first second : Byte} (same : first = second) :
      AgreeOn addresses (left.loaded first total) (right.loaded second total) := by
    refine ⟨?_, agree.cells⟩
    simp only [Snapshot.loaded]
    rw [same, agree.processor]
  rw [Snapshot.reads_eq] at covered
  unfold Snapshot.performed
  rw [← decoded]
  generalize left.outcome = outcome at covered
  rcases outcome with fault | opcode
  · refine ⟨?_, agree.cells⟩
    simp only [Snapshot.skipped]
    rw [agree.processor]
  · cases opcode with
    | ldaImmediate => exact loaded (agree.code_eq (covered (by simp)))
    | ldaZeroPage =>
        have operand := agree.code_eq (covered (by simp) : left.processor.pc + 1 ∈ addresses)
        apply loaded
        rw [← operand, Snapshot.zeroPage_toNat, Snapshot.zeroPage_toNat]
        exact agree.cells _ (covered (by simp))
    | ldaZeroPageX =>
        have operand := agree.code_eq (covered (by simp) : left.processor.pc + 1 ∈ addresses)
        apply loaded
        rw [← operand, ← agree.processor, Snapshot.zeroPage_add, Snapshot.zeroPage_add]
        exact agree.cells _ (covered (by simp))
    | jsr =>
        have first := agree.code_eq (covered (by simp) : left.processor.pc + 1 ∈ addresses)
        have second := agree.code_eq (covered (by simp) : left.processor.pc + 2 ∈ addresses)
        constructor
        · simp only [Snapshot.called]
          rw [first, second, agree.processor]
        · intro address member
          simp only [Snapshot.called]
          rw [← agree.processor]
          exact Memory.read_writeWord_congr (agree.cells address member) _ _

theorem price_eq (agree : AgreeOn addresses left right) (covered : left.reads ⊆ addresses) :
    left.price = right.price := by
  rw [Snapshot.price_eq_cost, Snapshot.price_eq_cost, agree.outcome_eq covered]

theorem event_eq (agree : AgreeOn addresses left right) (covered : left.reads ⊆ addresses) :
    left.event = right.event := by
  rw [Snapshot.event, Snapshot.event, agree.outcome_eq covered, agree.processor]

theorem next (agree : AgreeOn addresses left right) (covered : left.reads ⊆ addresses) :
    AgreeOn addresses left.next right.next := by
  have total : left.next.processor.cycles = right.next.processor.cycles := by
    rw [Machine.cycles_next, Machine.cycles_next, agree.processor, agree.price_eq covered]
  rw [(Machine.executes_next left).after_eq, (Machine.executes_next right).after_eq, ← total]
  exact agree.performed covered _

variable {count : Nat}

theorem after (agree : AgreeOn addresses left right)
    (covered : ∀ index < count, (left.after index).reads ⊆ addresses) {index : Nat}
    (within : index ≤ count) : AgreeOn addresses (left.after index) (right.after index) := by
  induction index with
  | zero => exact agree
  | succ index ih =>
      rw [Snapshot.after_add, Snapshot.after_add]
      exact (ih (Nat.le_of_succ_le within)).next (covered index within)

end AgreeOn

namespace Machine

theorem ran_mem_map {event : Event} {events : List Event} :
    .ran event ∈ events.map Record.ran ↔ event ∈ events := by
  rw [List.mem_map]
  constructor
  · rintro ⟨_, member, ⟨⟩⟩
    exact member
  · intro member
    exact ⟨event, member, rfl⟩

/-- Two memories that agree at every address a run loads from are the same to it. It ends with the
same registers and reports the same, leaves the same word at the stack pointer if it calls, and
leaves every other byte of each memory as it was. An instruction loads from its own three bytes at
most, and from one address in page zero. -/
theorem execute_eq_of_reads (machine : Machine Memory) (other : Memory) (grant : Budget)
    (agree : ∀ address ∈ machine.reads (execute grant),
      machine.memory.read address = other.read address) :
    let elsewise : Machine Memory := { machine with memory := other }
    let run := (execute grant).run machine
    let otherRun := (execute grant).run elsewise
    let stack := machine.processor.sp
    let called := ∃ address, .ran (.executed address .jsr) ∈ machine.journal grant
    otherRun.1 = run.1 ∧
      otherRun.2.processor = run.2.processor ∧
      elsewise.journal grant = machine.journal grant ∧
      (called → ∀ address, address = stack ∨ address = stack + 1 →
        otherRun.2.memory.read address = run.2.memory.read address) ∧
      (∀ address, ¬(called ∧ (address = stack ∨ address = stack + 1)) →
        run.2.memory.read address = machine.memory.read address ∧
          otherRun.2.memory.read address = other.read address) ∧
      ∀ instruction : Machine Memory,
        let start := instruction.processor.pc
        ∃ offset : Byte,
          instruction.reads step ⊆ [start, start + 1, start + 2, offset.toUInt16] := by
  intro elsewise run otherRun stack called
  rcases exists_passes { machine with budget := grant } with ⟨count, passes⟩
  have covered : ∀ index < count,
      (machine.snapshot.after index).reads ⊆ machine.reads (execute grant) := by
    intro index below
    rw [reads_execute passes]
    exact machine.snapshot.reads_after_subset below
  have agrees : AgreeOn (machine.reads (execute grant)) machine.snapshot elsewise.snapshot :=
    ⟨rfl, agree⟩
  have agreesAt (index : Nat) (within : index ≤ count) := agrees.after covered within
  have prices (index : Nat) (below : index < count) :=
    (agreesAt index (Nat.le_of_lt below)).price_eq (covered index below)
  have events := Snapshot.events_congr fun index below =>
    (agreesAt index (Nat.le_of_lt below)).event_eq (covered index below)
  have pays : Pays machine.snapshot grant.remaining count := passes.pays
  have otherPays : Pays elsewise.snapshot grant.remaining count := pays.congr prices
  have ran : run = _ := execute_run_of_pays pays
  have otherRan : otherRun = _ := execute_run_of_pays otherPays
  have told := journal_of_pays pays
  have called_iff : called ↔ ∃ caller, .executed caller .jsr ∈ machine.snapshot.events count := by
    simp only [called, told, ran_mem_map]
  have memory : run.2.memory = machine.memory.afterCalls stack (machine.snapshot.events count) :=
    memory_execute_of_pays pays
  have otherMemory :
      otherRun.2.memory = other.afterCalls stack (machine.snapshot.events count) := by
    rw [events]
    exact memory_execute_of_pays otherPays
  refine ⟨?_, ?_, ?_, ?_, ?_, ?_⟩
  · rw [ran, otherRan, Snapshot.total_congr prices]
  · rw [ran, otherRan]
    exact (agreesAt count (Nat.le_refl count)).processor.symm
  · rw [told, journal_of_pays otherPays, events]
  · intro isCalled address stored
    rcases called_iff.mp isCalled with ⟨caller, member⟩
    rw [memory, otherMemory]
    exact Memory.read_afterCalls_eq member _ _ stored
  · intro address kept
    rw [called_iff] at kept
    rw [memory, otherMemory]
    exact ⟨Memory.read_afterCalls_of_kept _ kept, Memory.read_afterCalls_of_kept _ kept⟩
  · intro instruction start
    rw [reads_step]
    exact instruction.snapshot.exists_reads_subset

/-- The memory of the call with other bytes at the stack pointer and in a place that is not read. -/
def calledElsewhere : Memory := (callingItself.memory.write 0x0100 0x55).write 0x4000 0x77

theorem outcome_callingItself : callingItself.snapshot.outcome = .ok .jsr := by
  have opcode : callingItself.snapshot.code 0 = 0x20 := by
    simp [callingItself, snapshot, Memory.read_write, Processor.initial, resetVector]
  rw [Snapshot.outcome, opcode]
  rfl

theorem reads_callingItself :
    callingItself.reads (execute (.clamp 1)) = [0xFFFC, 0xFFFD, 0xFFFE] := by
  rcases exists_passes { callingItself with budget := .clamp 1 } with ⟨count, passes⟩
  -- One instruction pays for one cycle, whichever it is.
  cases passes.pays.unique (.one callingItself.snapshot)
  rw [reads_execute passes, Snapshot.traffic, List.range_one, List.flatMap_singleton,
    Snapshot.after_zero, ← Snapshot.reads, Snapshot.reads_eq, outcome_callingItself]
  rfl

/-- The memories differ where the call stores, and no longer do so after it. -/
theorem execute_eq_of_reads_callingItself :
    (∀ address ∈ callingItself.reads (execute (.clamp 1)),
      callingItself.memory.read address = calledElsewhere.read address) ∧
      let run := (execute (.clamp 1)).run callingItself
      let otherRun := (execute (.clamp 1)).run { callingItself with memory := calledElsewhere }
      otherRun.1 = run.1 ∧
        otherRun.2.processor = run.2.processor ∧
        otherRun.2.memory.read 0x0100 = run.2.memory.read 0x0100 := by
  have agree : ∀ address ∈ callingItself.reads (execute (.clamp 1)),
      callingItself.memory.read address = calledElsewhere.read address := by
    rw [reads_callingItself]
    simp [calledElsewhere, Memory.read_write]
  have same := execute_eq_of_reads callingItself calledElsewhere (.clamp 1) agree
  have called : ∃ address, .ran (.executed address .jsr) ∈ callingItself.journal (.clamp 1) := by
    have pays : Pays callingItself.snapshot (Budget.clamp 1).remaining 1 := .one _
    have told : callingItself.journal (.clamp 1) = [.ran callingItself.snapshot.event] :=
      journal_of_pays pays
    refine ⟨resetVector, ?_⟩
    rw [told, Snapshot.event, outcome_callingItself]
    exact List.mem_singleton_self _
  exact ⟨agree, same.1, same.2.1, same.2.2.2.1 called 0x0100 (.inl rfl)⟩

end Machine

end Mos6502

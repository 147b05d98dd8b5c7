import Mos6502.Proofs.Coherence

/-!
# Control flow and data

What the processor fetches, where it goes on, what it stores and what an instruction costs depend on
the program counter, the stack pointer and the memory (`SameControl`). The accumulator, the index
registers, the flags and the running total are not looked at, but for the index of one addressing
mode, which selects only what is loaded. So two machines that agree in the former run alike, and the
first load brings their accumulators together if the index is the same (`Machine.execute_congr`).
-/

namespace Mos6502

open Snapshot (Pays)

/-- All that decides which instructions are executed and what they cost. -/
structure SameControl (left right : Snapshot) : Prop where
  counter : left.processor.pc = right.processor.pc
  stack : left.processor.sp = right.processor.sp
  memory : left.memory = right.memory

namespace SameControl

variable {left right : Snapshot}

theorem code_eq (same : SameControl left right) (distance : Address) :
    left.code distance = right.code distance := by
  rw [Snapshot.code, Snapshot.code, same.memory, same.counter]

theorem zeroPage_eq (same : SameControl left right) (offset : Nat) :
    left.zeroPage offset = right.zeroPage offset := by
  rw [Snapshot.zeroPage, Snapshot.zeroPage, same.memory]

theorem outcome_eq (same : SameControl left right) : left.outcome = right.outcome := by
  rw [Snapshot.outcome, Snapshot.outcome, same.code_eq, same.counter]

theorem event_eq (same : SameControl left right) : left.event = right.event := by
  rw [Snapshot.event, Snapshot.event, same.outcome_eq, same.counter]

theorem price_eq (same : SameControl left right) : left.price = right.price := by
  rw [Snapshot.price_eq_cost, Snapshot.price_eq_cost, same.outcome_eq]

theorem performed (same : SameControl left right) (leftTotal rightTotal : UInt64) :
    SameControl (left.performed leftTotal) (right.performed rightTotal) := by
  have decoded := same.outcome_eq
  unfold Snapshot.performed
  rw [decoded]
  rcases right.outcome with fault | opcode
  · exact ⟨congrArg (· + 1) same.counter, same.stack, same.memory⟩
  · cases opcode with
    | jsr =>
        refine ⟨?_, same.stack, ?_⟩
        · exact congrArg₂ Word.ofBytes (same.code_eq 1) (same.code_eq 2)
        · simp only [Snapshot.called]
          rw [same.memory, same.stack, same.counter]
    | _ => exact ⟨congrArg (· + 2) same.counter, same.stack, same.memory⟩

theorem next (same : SameControl left right) : SameControl left.next right.next := by
  rw [(Machine.executes_next left).after_eq, (Machine.executes_next right).after_eq]
  exact same.performed _ _

theorem after (same : SameControl left right) (count : Nat) :
    SameControl (left.after count) (right.after count) := by
  induction count with
  | zero => exact same
  | succ count ih =>
      rw [Snapshot.after_add, Snapshot.after_add]
      exact ih.next

theorem total_eq (same : SameControl left right) (count : Nat) :
    left.total count = right.total count :=
  Snapshot.total_congr fun index _ => (same.after index).price_eq

theorem events_eq (same : SameControl left right) (count : Nat) :
    left.events count = right.events count :=
  Snapshot.events_congr fun index _ => (same.after index).event_eq

theorem pays (same : SameControl left right) {amount : Int} {count : Nat}
    (pays : Pays left amount count) : Pays right amount count :=
  pays.congr fun index _ => (same.after index).price_eq

/-- What is loaded depends on the index register and on nothing else that may differ. -/
theorem accumulator_next (same : SameControl left right)
    (indexX : left.processor.x = right.processor.x) (load : left.event.isLoad) :
    left.next.processor.a = right.next.processor.a := by
  rw [(Machine.executes_next left).after_eq, (Machine.executes_next right).after_eq]
  have decoded := same.outcome_eq
  unfold Snapshot.event at load
  unfold Snapshot.performed
  rw [decoded] at load ⊢
  generalize right.outcome = outcome at load ⊢
  rcases outcome with fault | opcode
  · exact absurd load Bool.false_ne_true
  · cases opcode with
    | ldaImmediate => exact same.code_eq 1
    | ldaZeroPage =>
        change left.zeroPage (left.code 1).toNat = right.zeroPage (right.code 1).toNat
        rw [same.code_eq, same.zeroPage_eq]
    | ldaZeroPageX =>
        change left.zeroPage ((left.code 1).toNat + left.processor.x.toNat) =
          right.zeroPage ((right.code 1).toNat + right.processor.x.toNat)
        rw [same.code_eq, same.zeroPage_eq, indexX]
    | jsr => exact absurd load Bool.false_ne_true

end SameControl

namespace Snapshot

theorem accumulator_next_of_not_load {snapshot : Snapshot} (other : ¬snapshot.event.isLoad) :
    snapshot.next.processor.a = snapshot.processor.a := by
  have unloaded : ¬∃ event ∈ [snapshot.event], event.isLoad := by simpa using other
  exact ((Machine.executes_next snapshot).follows.untouched unloaded).1

end Snapshot

/-- From the first load on the accumulators agree. -/
theorem SameControl.accumulator_after {left right : Snapshot} (same : SameControl left right)
    (indexX : left.processor.x = right.processor.x) {count : Nat}
    (loaded : ∃ event ∈ left.events count, event.isLoad) :
    (left.after count).processor.a = (right.after count).processor.a := by
  induction count with
  | zero => simp [Snapshot.events] at loaded
  | succ count ih =>
      have sameBefore := same.after count
      rw [Snapshot.after_add, Snapshot.after_add]
      change (left.after count).next.processor.a = (right.after count).next.processor.a
      by_cases load : (left.after count).event.isLoad
      · have indexBefore : (left.after count).processor.x = (right.after count).processor.x := by
          rw [(left.follows_after count).indexX, (right.follows_after count).indexX, indexX]
        exact sameBefore.accumulator_next indexBefore load
      · have otherLoad : ¬(right.after count).event.isLoad := by rwa [← sameBefore.event_eq]
        have earlier : ∃ event ∈ left.events count, event.isLoad := by
          rcases loaded with ⟨event, member, isLoad⟩
          rw [Snapshot.events_add] at member
          rcases List.mem_append.mp member with early | last
          · exact ⟨event, early, isLoad⟩
          · rw [List.mem_singleton.mp last] at isLoad
            exact absurd isLoad load
        rw [Snapshot.accumulator_next_of_not_load load,
          Snapshot.accumulator_next_of_not_load otherLoad]
        exact ih earlier

namespace Machine

/-- Two machines that agree in program counter, stack pointer and memory execute a budget alike,
whatever their other registers hold, and keep their index registers. If these agree too and
something is loaded, so do the accumulators and the flags that describe them. -/
theorem execute_congr {left right : Machine Memory}
    (same : SameControl left.snapshot right.snapshot) (grant : Budget) :
    let leftRun := (execute grant).run left
    let rightRun := (execute grant).run right
    leftRun.1 = rightRun.1 ∧
      leftRun.2.processor.pc = rightRun.2.processor.pc ∧
      leftRun.2.memory = rightRun.2.memory ∧
      left.journal grant = right.journal grant ∧
      (leftRun.2.processor.x = left.processor.x ∧ leftRun.2.processor.y = left.processor.y) ∧
      (rightRun.2.processor.x = right.processor.x ∧ rightRun.2.processor.y = right.processor.y) ∧
      (left.processor.x = right.processor.x →
        (∃ event, .ran event ∈ left.journal grant ∧ event.isLoad) →
        leftRun.2.processor.a = rightRun.2.processor.a ∧
          leftRun.2.processor.status.get .zero = rightRun.2.processor.status.get .zero ∧
          leftRun.2.processor.status.get .negative =
            rightRun.2.processor.status.get .negative) := by
  rcases exists_pays_execute left grant with ⟨count, pays, leftExecuted, leftTold⟩
  rcases exists_pays_execute right grant with ⟨rightCount, rightPays, rightExecuted, rightTold⟩
  cases rightPays.unique (same.pays pays)
  have sameAfter := same.after count
  have leftFollows := left.snapshot.follows_after count
  have rightFollows := right.snapshot.follows_after count
  rw [leftExecuted, rightExecuted, leftTold, rightTold]
  refine ⟨?_, sameAfter.counter, sameAfter.memory, ?_, ?_, ?_, ?_⟩
  · exact congrArg Int.ofNat (same.total_eq count)
  · exact congrArg (List.map Record.ran) (same.events_eq count)
  · exact ⟨leftFollows.indexX, leftFollows.indexY⟩
  · exact ⟨rightFollows.indexX, rightFollows.indexY⟩
  · rintro indexX ⟨event, told, load⟩
    have leftLoaded : ∃ event ∈ left.snapshot.events count, event.isLoad := by
      rcases List.mem_map.mp told with ⟨_, member, ⟨⟩⟩
      exact ⟨event, member, load⟩
    have rightLoaded := leftLoaded
    rw [same.events_eq] at rightLoaded
    have accumulator := same.accumulator_after indexX leftLoaded
    have leftFlags := leftFollows.described leftLoaded
    have rightFlags := rightFollows.described rightLoaded
    rw [← accumulator] at rightFlags
    refine ⟨accumulator, ?_, ?_⟩
    · exact Bool.eq_iff_iff.mpr (leftFlags.1.trans rightFlags.1.symm)
    · exact Bool.eq_iff_iff.mpr (leftFlags.2.trans rightFlags.2.symm)

/-- A machine at an instruction that loads a negative value. -/
def loadingNegative : Machine Memory where
  processor := .initial
  memory := Memory.blank.load resetVector [0xA9, 0x80]
  budget := .clamp 0

/-- The same with other data in the registers and every flag set. -/
def loadingNegativeElsewise : Machine Memory :=
  { loadingNegative with
    processor := { Processor.initial with a := 0x37, y := 0x05, status := .all, cycles := 99 } }

theorem ran_event_mem_journal (machine : Machine Memory) {grant : Budget}
    (funded : 0 < grant.remaining) : .ran machine.snapshot.event ∈ machine.journal grant := by
  have positive : 0 < ({ machine with budget := grant } : Machine Memory).budget.remaining := funded
  rw [journal_eq, events_of_funded positive, stepEvent_run]
  exact List.mem_cons_self

theorem event_loadingNegative :
    loadingNegative.snapshot.event = .executed resetVector .ldaImmediate := by
  have opcode : loadingNegative.snapshot.code 0 = 0xA9 := by
    simp [loadingNegative, snapshot, Memory.read_write, Processor.initial, resetVector]
  rw [Snapshot.event, Snapshot.outcome, opcode]
  rfl

/-- One begins with no flag and the other with all, and they end with the same value and signs. -/
theorem execute_congr_loadingNegative :
    SameControl loadingNegative.snapshot loadingNegativeElsewise.snapshot ∧
      (∃ event, .ran event ∈ loadingNegative.journal (.clamp 1) ∧ event.isLoad) ∧
      let leftRun := (execute (.clamp 1)).run loadingNegative
      let rightRun := (execute (.clamp 1)).run loadingNegativeElsewise
      leftRun.1 = rightRun.1 ∧
        leftRun.2.processor.a = rightRun.2.processor.a ∧
        leftRun.2.processor.status.get .zero = rightRun.2.processor.status.get .zero ∧
        leftRun.2.processor.status.get .negative =
          rightRun.2.processor.status.get .negative := by
  have same : SameControl loadingNegative.snapshot loadingNegativeElsewise.snapshot :=
    ⟨rfl, rfl, rfl⟩
  have load : ∃ event, .ran event ∈ loadingNegative.journal (.clamp 1) ∧ event.isLoad := by
    refine ⟨_, loadingNegative.ran_event_mem_journal (by decide), ?_⟩
    rw [event_loadingNegative]
    rfl
  have congr := execute_congr same (.clamp 1)
  have data := congr.2.2.2.2.2.2 rfl load
  exact ⟨same, load, congr.1, data⟩

end Machine

end Mos6502

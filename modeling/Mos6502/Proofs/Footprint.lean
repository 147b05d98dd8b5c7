import Mos6502.Proofs.Trace

/-!
# The footprint of a session

A call stores the word at the stack pointer and nothing moves the stack pointer, so every call of a
session stores at the same place and only the last one is seen in the end
(`Machine.memory_moves`). The word may be part of the code that runs: what it does to later
instructions makes no difference to where they store.
-/

namespace Mos6502

namespace Event

/-- The address of the instruction, if it was a call. -/
def caller? : Event → Option Address
  | executed address .jsr => some address
  | _ => none

def lastCaller? (events : List Event) : Option Address := (events.filterMap caller?).getLast?

theorem lastCaller?_append (first second : List Event) :
    lastCaller? (first ++ second) = (lastCaller? second).or (lastCaller? first) := by
  rw [lastCaller?, List.filterMap_append, List.getLast?_append]
  rfl

theorem lastCaller?_eq_none_iff {events : List Event} :
    lastCaller? events = none ↔ ∀ address, executed address .jsr ∉ events := by
  rw [lastCaller?, List.getLast?_eq_none_iff, List.filterMap_eq_nil_iff]
  constructor
  · intro others address member
    cases others _ member
  · intro uncalled event member
    rcases event with ⟨address, opcode⟩ | fault
    · cases opcode with
      | jsr => exact absurd member (uncalled address)
      | _ => rfl
    · rfl

end Event

/-- The memory after the last of some calls has left its return address at the stack pointer. -/
def Memory.afterCalls (memory : Memory) (stack : Address) (events : List Event) : Memory :=
  match Event.lastCaller? events with
  | none => memory
  | some caller => memory.writeWord stack (caller + 2)

namespace Memory

theorem afterCalls_append (memory : Memory) (stack : Address) (first second : List Event) :
    memory.afterCalls stack (first ++ second) =
      (memory.afterCalls stack first).afterCalls stack second := by
  unfold afterCalls
  rw [Event.lastCaller?_append]
  cases Event.lastCaller? second with
  | none => rfl
  | some caller =>
      -- The later call writes both bytes of the earlier one again.
      cases Event.lastCaller? first with
      | none => rfl
      | some earlier => exact (memory.writeWord_writeWord stack _ _).symm

theorem read_afterCalls_of_ne (memory : Memory) {stack address : Address} (events : List Event)
    (notLow : address ≠ stack) (notHigh : address ≠ stack + 1) :
    (memory.afterCalls stack events).read address = memory.read address := by
  unfold afterCalls
  cases Event.lastCaller? events with
  | none => rfl
  | some caller => exact memory.read_writeWord_of_ne _ notLow notHigh

theorem read_afterCalls_of_kept (memory : Memory) {stack address : Address} {events : List Event}
    (kept : ¬((∃ caller, .executed caller .jsr ∈ events) ∧
      (address = stack ∨ address = stack + 1))) :
    (memory.afterCalls stack events).read address = memory.read address := by
  by_cases stored : address = stack ∨ address = stack + 1
  · have uncalled : Event.lastCaller? events = none := by
      rw [Event.lastCaller?_eq_none_iff]
      intro caller member
      exact kept ⟨⟨caller, member⟩, stored⟩
    rw [afterCalls, uncalled]
  · rw [not_or] at stored
    exact memory.read_afterCalls_of_ne events stored.1 stored.2

/-- Whatever two memories held, a call leaves the same word in both. -/
theorem read_afterCalls_eq {events : List Event} {caller : Address}
    (called : .executed caller .jsr ∈ events) (left right : Memory) {stack address : Address}
    (stored : address = stack ∨ address = stack + 1) :
    (left.afterCalls stack events).read address = (right.afterCalls stack events).read address := by
  unfold afterCalls
  cases last : Event.lastCaller? events with
  | none => exact absurd called (Event.lastCaller?_eq_none_iff.mp last caller)
  | some caller =>
      rcases stored with rfl | rfl
      · simp only [read_writeWord_low]
      · simp only [read_writeWord_high]

end Memory

/-- Nothing but the last call is left in memory. -/
structure Stacks (before : Snapshot) (events : List Event) (after : Snapshot) : Prop where
  stack : after.processor.sp = before.processor.sp
  memory : after.memory = before.memory.afterCalls before.processor.sp events

theorem Stacks.append {before middle after : Snapshot} {first second : List Event}
    (start : Stacks before first middle) (finish : Stacks middle second after) :
    Stacks before (first ++ second) after where
  stack := finish.stack.trans start.stack
  memory := by
    rw [finish.memory, start.stack, start.memory, Memory.afterCalls_append]

theorem Executes.stacks {before after : Snapshot} {outcome : Except UnknownOpcode Opcode}
    (executes : Executes before outcome after) :
    Stacks before [.ofOutcome before.processor.pc outcome] after := by
  cases executes with
  | ldaImmediate _ loads => exact ⟨loads.stack, loads.memory⟩
  | ldaZeroPage _ loads => exact ⟨loads.stack, loads.memory⟩
  | ldaZeroPageX _ loads => exact ⟨loads.stack, loads.memory⟩
  | jsr _ calls => exact ⟨calls.stack, congrArg Snapshot.memory (calls_iff.mp calls)⟩
  | unknown _ skips => exact ⟨skips.stack, skips.memory⟩

theorem Traces.stacks {before after : Snapshot} {events : List Event}
    (traces : Traces before events after) : Stacks before events after := by
  induction traces with
  | nil snapshot => exact ⟨rfl, rfl⟩
  | cons executes others ih => exact executes.stacks.append ih

/-- What a host may do between and in its turns, if it leaves the stack pointer and the memory to
the machine. -/
inductive Move where
  | take (turn : Turn)
  | setRegisters (change : Processor → Processor)

/-- Makes a move and tells which instructions were executed or passed over in it. -/
def Move.make : Move → StateM (Machine Memory) (List Event)
  | take turn => turn.take
  | setRegisters change => do
    Machine.modifyProcessor fun processor => { change processor with sp := processor.sp }
    return []

namespace Machine

theorem memory_execute_of_pays {machine : Machine Memory} {grant : Budget} {count : Nat}
    (pays : Snapshot.Pays machine.snapshot grant.remaining count) :
    ((execute grant).run machine).2.memory =
      machine.memory.afterCalls machine.processor.sp (machine.snapshot.events count) := by
  rw [execute_run_of_pays pays]
  exact (machine.snapshot.traces_after count).stacks.memory

theorem stacks_move (machine : Machine Memory) (move : Move) :
    Stacks machine.snapshot (move.make.run machine).1 (move.make.run machine).2.snapshot := by
  cases move with
  | take turn => exact (machine.traces_turn turn).stacks
  | setRegisters change => exact ⟨rfl, rfl⟩

theorem stacks_moves (machine : Machine Memory) (moves : List Move) :
    let made := (moves.mapM Move.make).run machine
    Stacks machine.snapshot made.1.flatten made.2.snapshot := by
  apply session_flatten Move.make
    (motive := fun machine told after => Stacks machine.snapshot told after.snapshot)
  case nil =>
      intro machine
      exact ⟨rfl, rfl⟩
  case append =>
      intro before first middle second after start finish
      exact start.append finish
  case single =>
      intro move machine
      exact machine.stacks_move move

/-- A session leaves the address of the last byte of its last call at the stack pointer, low byte
first, and otherwise the memory that it found. -/
theorem memory_moves (machine : Machine Memory) (moves : List Move) :
    let made := (moves.mapM Move.make).run machine
    let stack := machine.processor.sp
    made.2.memory =
        (match Event.lastCaller? made.1.flatten with
        | none => machine.memory
        | some caller => machine.memory.writeWord stack (caller + 2)) ∧
      (∀ caller, Event.lastCaller? made.1.flatten = some caller →
        let stored := (caller.toNat + 2) % 65536
        (made.2.memory.read stack).toNat = stored % 256 ∧
          (made.2.memory.read (stack + 1)).toNat = stored / 256) ∧
      ∀ address, address ≠ stack → address ≠ stack + 1 →
        made.2.memory.read address = machine.memory.read address := by
  intro made stack
  have written : made.2.memory = machine.memory.afterCalls stack made.1.flatten :=
    (machine.stacks_moves moves).memory
  refine ⟨written, ?_, ?_⟩
  · intro caller last stored
    have kept : (caller + 2).toNat = stored := UInt16.toNat_add caller 2
    rw [written, Memory.afterCalls, last]
    constructor
    · rw [Memory.read_writeWord_low, Word.toNat_low, kept]
    · rw [Memory.read_writeWord_high, Word.toNat_high, kept]
  · intro address notLow notHigh
    rw [written]
    exact machine.memory.read_afterCalls_of_ne _ notLow notHigh

end Machine

end Mos6502

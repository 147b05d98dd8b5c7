import Mos6502.Bus.Recorded
import Mos6502.Proofs.Guards

/-!
# Traffic on the bus

A machine on a recorded memory does what it does without the recording, and the record tells what
each instruction moves: the bytes it consists of, then the byte that it loads or the word that it
stores (`Snapshot.accesses`). A run makes the accesses of its instructions one after the other
(`Machine.execute_recorded`).
-/

namespace Mos6502

/-- The address of an access that loads. -/
def Access.loaded? : Access → Option Address
  | load address _ => some address
  | store _ _ => none

namespace Snapshot

def load (snapshot : Snapshot) (address : Address) : Access :=
  .load address (snapshot.memory.read address)

/-- What the instruction at the program counter moves over the bus, in order. -/
def accesses (snapshot : Snapshot) : List Access :=
  let counter := snapshot.processor.pc
  let stack := snapshot.processor.sp
  match snapshot.outcome with
  | .ok .ldaImmediate => [snapshot.load counter, snapshot.load (counter + 1)]
  | .ok .ldaZeroPage =>
    [snapshot.load counter, snapshot.load (counter + 1),
      snapshot.load (snapshot.code 1).toUInt16]
  | .ok .ldaZeroPageX =>
    [snapshot.load counter, snapshot.load (counter + 1),
      snapshot.load (snapshot.code 1 + snapshot.processor.x).toUInt16]
  | .ok .jsr =>
    [snapshot.load counter, snapshot.load (counter + 1), snapshot.load (counter + 2),
      .store stack (Word.low (counter + 2)), .store (stack + 1) (Word.high (counter + 2))]
  | .error _ => [snapshot.load counter]

/-- The addresses that the instruction at the program counter loads from, in order. -/
def reads (snapshot : Snapshot) : List Address := snapshot.accesses.filterMap Access.loaded?

theorem reads_eq (snapshot : Snapshot) :
    snapshot.reads =
      match snapshot.outcome with
      | .ok .ldaImmediate => [snapshot.processor.pc, snapshot.processor.pc + 1]
      | .ok .ldaZeroPage =>
        [snapshot.processor.pc, snapshot.processor.pc + 1, (snapshot.code 1).toUInt16]
      | .ok .ldaZeroPageX =>
        [snapshot.processor.pc, snapshot.processor.pc + 1,
          (snapshot.code 1 + snapshot.processor.x).toUInt16]
      | .ok .jsr =>
        [snapshot.processor.pc, snapshot.processor.pc + 1, snapshot.processor.pc + 2]
      | .error _ => [snapshot.processor.pc] := by
  unfold reads accesses
  rcases snapshot.outcome with fault | opcode
  · rfl
  · cases opcode <;> rfl

/-- An instruction loads from its own three bytes at most, and from one address in page zero. -/
theorem exists_reads_subset (snapshot : Snapshot) :
    ∃ offset : Byte, snapshot.reads ⊆
      [snapshot.processor.pc, snapshot.processor.pc + 1, snapshot.processor.pc + 2,
        offset.toUInt16] := by
  rw [reads_eq]
  rcases snapshot.outcome with fault | opcode
  · exact ⟨0, by simp⟩
  · cases opcode with
    | ldaImmediate => exact ⟨0, by simp⟩
    | ldaZeroPage => exact ⟨snapshot.code 1, by simp⟩
    | ldaZeroPageX => exact ⟨snapshot.code 1 + snapshot.processor.x, by simp⟩
    | jsr => exact ⟨0, by simp⟩

end Snapshot

namespace Machine

/-- The machine with a record of its bus that begins with some accesses, the latest first. -/
def recorded {σ : Type} (machine : Machine σ) (latest : List Access) : Machine (Recorded σ) :=
  ⟨machine.processor, ⟨machine.memory, latest⟩, machine.budget, ()⟩

theorem fetchAndPerform_recorded (machine : Machine Memory) (latest : List Access) :
    fetchAndPerform.run (machine.recorded latest) =
      ((fetchAndPerform.run machine).1,
        (fetchAndPerform.run machine).2.recorded
          (machine.snapshot.accesses.reverse ++ latest)) := by
  have second : machine.processor.pc + 1 + 1 = machine.processor.pc + 2 :=
    UInt16.add_assoc _ 1 1
  have last : machine.processor.pc + 1 + 1 + 1 - 1 = machine.processor.pc + 2 := by
    rw [UInt16.add_sub_cancel, second]
  cases decoded : Opcode.ofByte? (fetchByte.run machine).1 with
  | none =>
      have same : Opcode.ofByte? (fetchByte.run (machine.recorded latest)).1 = none := decoded
      rw [fetchAndPerform_run_of_unknown decoded, fetchAndPerform_run_of_unknown same]
      rw [fetchByte_run_fst] at decoded
      unfold Snapshot.accesses Snapshot.outcome
      rw [decoded]
      rfl
  | some opcode =>
      have same : Opcode.ofByte? (fetchByte.run (machine.recorded latest)).1 = some opcode :=
        decoded
      rw [fetchAndPerform_run_of_known decoded, fetchAndPerform_run_of_known same, heard_unit,
        heard_unit]
      rw [fetchByte_run_fst] at decoded
      unfold Snapshot.accesses Snapshot.outcome
      rw [decoded]
      cases opcode with
      | ldaImmediate => rfl
      | ldaZeroPage => rfl
      | ldaZeroPageX => rfl
      | jsr =>
          let moved (third : Address) (caller : Word) : List Access :=
            .store (machine.processor.sp + 1) (Word.high caller) ::
              .store machine.processor.sp (Word.low caller) ::
              machine.snapshot.load third ::
              machine.snapshot.load (machine.processor.pc + 1) ::
              machine.snapshot.load machine.processor.pc :: latest
          refine Prod.ext rfl (Machine.ext rfl ?_ rfl)
          exact congrArg (Recorded.mk _) (congrArg₂ moved second last)

theorem step_recorded (machine : Machine Memory) (latest : List Access) :
    step.run (machine.recorded latest) =
      ((step.run machine).1,
        (step.run machine).2.recorded (machine.snapshot.accesses.reverse ++ latest)) := by
  have performed := fetchAndPerform_recorded machine latest
  refine Prod.ext ?_ ?_
  · rw [step_run_fst, performed, step_run_fst]
  · rw [step_run_snd, performed, step_run_snd]
    rfl

end Machine

namespace Snapshot

/-- What a number of instructions move over the bus, in order. -/
def traffic (snapshot : Snapshot) (count : Nat) : List Access :=
  (List.range count).flatMap fun index => (snapshot.after index).accesses

theorem traffic_succ (snapshot : Snapshot) (count : Nat) :
    snapshot.traffic (count + 1) = snapshot.traffic count ++ (snapshot.after count).accesses := by
  rw [traffic, List.range_succ, List.flatMap_append, List.flatMap_singleton]
  rfl

theorem reads_after_subset (snapshot : Snapshot) {count index : Nat}
    (below : index < count) :
    (snapshot.after index).reads ⊆ (snapshot.traffic count).filterMap Access.loaded? := by
  intro address member
  rcases List.mem_filterMap.mp member with ⟨access, moved, loads⟩
  apply List.mem_filterMap.mpr
  refine ⟨access, ?_, loads⟩
  exact List.mem_flatMap.mpr ⟨index, List.mem_range.mpr below, moved⟩

end Snapshot

namespace Machine

theorem atGuard_recorded {machine : Machine Memory} {count : Nat} (passes : Passes machine count)
    (latest : List Access) {index : Nat} (within : index ≤ count) :
    (machine.recorded latest).atGuard index =
      (machine.atGuard index).recorded
        ((machine.snapshot.traffic index).reverse ++ latest) := by
  induction index with
  | zero => rfl
  | succ index ih =>
      have before := passes.atGuard_eq (Nat.le_of_succ_le within)
      rw [atGuard_succ, ih (Nat.le_of_succ_le within), step_recorded, ← atGuard_succ,
        Snapshot.traffic_succ, List.reverse_append, List.append_assoc]
      rw [before, snapshot_withBudget]

theorem Passes.recorded {machine : Machine Memory} {count : Nat} (passes : Passes machine count)
    (latest : List Access) : Passes (machine.recorded latest) count where
  funded index below := by
    rw [atGuard_recorded passes latest (Nat.le_of_lt below)]
    exact passes.funded index below
  exhausted := by
    rw [atGuard_recorded passes latest (Nat.le_refl count)]
    exact passes.exhausted

theorem execute_recorded {machine : Machine Memory} {grant : Budget} {count : Nat}
    (passes : Passes { machine with budget := grant } count) (latest : List Access) :
    (execute grant).run (machine.recorded latest) =
      (((execute grant).run machine).1,
        ((execute grant).run machine).2.recorded
          ((machine.snapshot.traffic count).reverse ++ latest)) := by
  have recorded : Passes { machine.recorded latest with budget := grant } count :=
    passes.recorded latest
  have ended : Machine.atGuard { machine.recorded latest with budget := grant } count =
      (Machine.atGuard { machine with budget := grant } count).recorded
        ((machine.snapshot.traffic count).reverse ++ latest) :=
    atGuard_recorded passes latest (Nat.le_refl count)
  rw [execute_run_eq recorded, execute_run_eq passes, ended]
  rfl

/-- The addresses that an action loads from, in order. -/
def reads {α : Type} (machine : Machine Memory) (action : StateM (Machine (Recorded Memory)) α) :
    List Address :=
  (action.run (machine.recorded [])).2.memory.accesses.filterMap Access.loaded?

theorem reads_step (machine : Machine Memory) :
    machine.reads step = machine.snapshot.reads := by
  rw [reads, step_recorded, List.append_nil]
  exact congrArg (List.filterMap _) (List.reverse_reverse _)

theorem reads_execute {machine : Machine Memory} {grant : Budget} {count : Nat}
    (passes : Passes { machine with budget := grant } count) :
    machine.reads (execute grant) =
      (machine.snapshot.traffic count).filterMap Access.loaded? := by
  rw [reads, execute_recorded passes, List.append_nil]
  exact congrArg (List.filterMap _) (List.reverse_reverse _)

end Machine

end Mos6502

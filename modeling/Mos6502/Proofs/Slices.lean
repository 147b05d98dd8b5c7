import Mos6502.Proofs.Run

/-!
# Execution in slices

A budget may be executed in two slices, the second of which is what the first has left of it.
Nothing depends on where the cut falls, because both ways follow one sequence of instructions and
pay the same prices.
-/

namespace Mos6502.Machine

theorem remaining_clamp_sub_execute (machine : Machine Memory) {first whole : Budget}
    (within : first.remaining ≤ whole.remaining) :
    (Budget.clamp (whole.remaining - ((execute first).run machine).1)).remaining =
      whole.remaining - ((execute first).run machine).1 := by
  rcases exists_pays_execute machine first with ⟨count, pays, executed, _⟩
  have overdraft := pays.total_le
  have atLeast := whole.floor_le
  have atMost := whole.le_ceiling
  rw [executed]
  apply Budget.remaining_clamp
  · simp only [Budget.floor] at atLeast ⊢
    omega
  · omega

/-- Two slices do what the whole budget does at once, and they report the same. -/
theorem execute_slices (machine : Machine Memory) (first whole : Budget)
    (within : first.remaining ≤ whole.remaining) :
    ∃ rest : Budget,
      let slice := (execute first).run machine
      let remainder := (execute rest).run slice.2
      let single := (execute whole).run machine
      rest.remaining = whole.remaining - slice.1 ∧
      remainder.2 = single.2 ∧
      slice.1 + remainder.1 = single.1 ∧
      machine.journal first ++ slice.2.journal rest = machine.journal whole := by
  have fits := remaining_clamp_sub_execute machine within
  generalize Budget.clamp (whole.remaining - ((execute first).run machine).1) = rest at fits
  refine ⟨rest, fits, ?_⟩
  rcases exists_pays_execute machine first with ⟨firstCount, firstPays, firstRun, firstTold⟩
  rw [firstRun] at fits ⊢
  rcases exists_pays_execute ((machine.snapshot.after firstCount).withBudget machine.budget) rest
    with ⟨restCount, restPays, restRun, restTold⟩
  rw [snapshot_withBudget] at restPays restRun restTold
  rw [fits] at restPays
  rcases exists_pays_execute machine whole with ⟨count, pays, ran, told⟩
  -- Both ways pay for the whole budget by the least number of instructions.
  have cut : count = firstCount + restCount := pays.unique (firstPays.add within restPays)
  subst cut
  refine ⟨?_, ?_, ?_⟩
  · rw [restRun, ran, Snapshot.after_add]
    rfl
  · rw [restRun, ran, Snapshot.total_add]
    exact (Int.natCast_add _ _).symm
  · rw [firstTold, restTold, told, Snapshot.events_add]
    exact List.map_append.symm

/-- A machine at an instruction that calls its own address. -/
def callingItself : Machine Memory where
  processor := .initial
  memory := Memory.blank.load resetVector [0x20, 0xFC, 0xFF]
  budget := .clamp 0

/-- The first slice overdraws by more than the whole budget holds, and the second does nothing. -/
theorem execute_slices_callingItself :
    (Budget.clamp 1).remaining ≤ (Budget.clamp 3).remaining ∧
      ∃ rest : Budget,
        let slice := (execute (.clamp 1)).run callingItself
        let remainder := (execute rest).run slice.2
        let single := (execute (.clamp 3)).run callingItself
        rest.remaining = (Budget.clamp 3).remaining - slice.1 ∧
        remainder.2 = single.2 ∧
        slice.1 + remainder.1 = single.1 ∧
        callingItself.journal (.clamp 1) ++ slice.2.journal rest =
          callingItself.journal (.clamp 3) :=
  ⟨by decide, execute_slices callingItself (.clamp 1) (.clamp 3) (by decide)⟩

end Mos6502.Machine

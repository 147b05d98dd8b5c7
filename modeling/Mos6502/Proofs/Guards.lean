import Mathlib.Algebra.Order.Floor.Div
import Mathlib.GroupTheory.GroupAction.Ring
import Mos6502.Proofs.Debits
import Mos6502.Proofs.Slices

/-!
# The guard of a run

A run looks at its budget before every instruction and ends as soon as nothing is left. How many
instructions the guard lets pass (`Machine.Passes`) is said of any store on the bus. Each of them
takes between one and six cycles, which bounds their number from both sides and keeps the budget so
far from the floor that no debit of a run meets it (`Machine.execute_ends`).
-/

namespace Mos6502

namespace Snapshot

theorem le_total (snapshot : Snapshot) (count : Nat) : count ≤ snapshot.total count := by
  induction count with
  | zero => exact Nat.zero_le _
  | succ count ih =>
      have positive := (snapshot.after count).price_pos
      rw [total_add, total_one]
      omega

theorem total_le_mul (snapshot : Snapshot) (count : Nat) : snapshot.total count ≤ 6 * count := by
  induction count with
  | zero => exact Nat.zero_le _
  | succ count ih =>
      have cheap := (snapshot.after count).price_le
      rw [total_add, total_one]
      omega

/-- The cheapest instructions are the most that a budget pays for, and the dearest the fewest. -/
theorem Pays.count_bounds {snapshot : Snapshot} {amount : Int} {count : Nat}
    (pays : Pays snapshot amount count) (funded : 0 < amount) :
    amount.toNat ⌈/⌉ 6 ≤ count ∧ (count : Int) ≤ amount := by
  have enough := pays.enough
  have dearest := snapshot.total_le_mul count
  constructor
  · rw [ceilDiv_le_iff_le_mul (by decide)]
    omega
  · cases count with
    | zero => omega
    | succ count =>
        have short := pays.least count (Nat.lt_succ_self count)
        have cheapest := snapshot.le_total count
        omega

end Snapshot

namespace Machine

section

variable {σ : Type} [ByteStore σ]

/-- The machine after a number of instructions, whatever its budget holds. -/
def atGuard (machine : Machine σ) (index : Nat) : Machine σ :=
  (fun machine => (step.run machine).2)^[index] machine

/-- The guard lets a number of instructions pass and no more. -/
structure Passes (machine : Machine σ) (count : Nat) : Prop where
  funded : ∀ index < count, 0 < (machine.atGuard index).budget.remaining
  exhausted : (machine.atGuard count).budget.remaining ≤ 0

@[simp]
theorem atGuard_zero (machine : Machine σ) : machine.atGuard 0 = machine := rfl

theorem atGuard_succ (machine : Machine σ) (index : Nat) :
    machine.atGuard (index + 1) = (step.run (machine.atGuard index)).2 :=
  Function.iterate_succ_apply' _ index machine

namespace Passes

theorem tail {machine : Machine σ} {count : Nat} (passes : Passes machine (count + 1)) :
    Passes (step.run machine).2 count where
  funded index below := passes.funded (index + 1) (Nat.succ_lt_succ below)
  exhausted := passes.exhausted

theorem run_eq {machine : Machine σ} {count : Nat} (passes : Passes machine count) :
    machine.run = machine.atGuard count := by
  induction count generalizing machine with
  | zero => exact run_of_exhausted passes.exhausted
  | succ count ih =>
      have funded : 0 < machine.budget.remaining := passes.funded 0 (Nat.succ_pos count)
      rw [run_of_funded funded, advance_run_snd]
      exact ih passes.tail

end Passes

theorem exists_passes (machine : Machine σ) : ∃ count, Passes machine count := by
  induction machine using run_induction with
  | exhausted machine nothing =>
      refine ⟨0, ?_, nothing⟩
      intro index below
      exact absurd below (Nat.not_lt_zero index)
  | funded machine funded ih =>
      rcases ih with ⟨count, passes⟩
      refine ⟨count + 1, ?_, passes.exhausted⟩
      intro index below
      cases index with
      | zero => exact funded
      | succ index => exact passes.funded index (Nat.lt_of_succ_lt_succ below)

theorem execute_run_eq {machine : Machine σ} {grant : Budget} {count : Nat}
    (passes : Passes { machine with budget := grant } count) :
    let entered : Machine σ := { machine with budget := grant }
    (execute grant).run machine =
      (grant.remaining - (entered.atGuard count).budget.remaining,
        { entered.atGuard count with budget := machine.budget }) := by
  intro entered
  have executed : (execute grant).run machine =
      (grant.spent entered.run.budget, { entered.run with budget := machine.budget }) := rfl
  rw [executed, passes.run_eq]
  rfl

end

namespace Passes

variable {machine : Machine Memory} {count : Nat}

/-- Up to its end a run follows the sequence of instructions that knows no budget. -/
theorem atGuard_eq (passes : Passes machine count) {index : Nat} (within : index ≤ count) :
    machine.atGuard index =
      (machine.snapshot.after index).withBudget
        (machine.budget.debit (machine.snapshot.total index)) := by
  induction index with
  | zero =>
      rw [atGuard_zero, Snapshot.total_zero, Budget.debit_zero]
      rfl
  | succ index ih =>
      have before := ih (Nat.le_of_succ_le within)
      have funded := passes.funded index within
      have solvent : Budget.floor + 6 ≤ (machine.atGuard index).budget.remaining := by
        simp only [Budget.floor]
        omega
      rw [atGuard_succ, step_run_snd_of_solvent solvent, before, snapshot_withBudget,
        Snapshot.after_add, Snapshot.total_add, Snapshot.total_one, ← Budget.debit_debit]
      rfl

theorem snapshot_eq (passes : Passes machine count) {index : Nat} (within : index ≤ count) :
    (machine.atGuard index).snapshot = machine.snapshot.after index := by
  rw [passes.atGuard_eq within, snapshot_withBudget]

theorem remaining_eq_max (passes : Passes machine count) {index : Nat} (within : index ≤ count) :
    (machine.atGuard index).budget.remaining =
      max Budget.floor (machine.budget.remaining - machine.snapshot.total index) := by
  rw [passes.atGuard_eq within]
  rfl

theorem pays (passes : Passes machine count) :
    Snapshot.Pays machine.snapshot machine.budget.remaining count where
  enough := by
    have exhausted := passes.exhausted
    rw [passes.remaining_eq_max (Nat.le_refl count)] at exhausted
    omega
  least fewer below := by
    have funded := passes.funded fewer below
    rw [passes.remaining_eq_max (Nat.le_of_lt below)] at funded
    simp only [Budget.floor] at funded
    omega

theorem total_le (passes : Passes machine count) {index : Nat} (within : index ≤ count) :
    (machine.snapshot.total index : Int) ≤ max 0 (machine.budget.remaining + 5) := by
  rcases Nat.lt_or_eq_of_le within with early | rfl
  · have short := passes.pays.least index early
    omega
  · exact passes.pays.total_le

/-- The floor is out of reach, so the guard sees the whole price of what was executed. -/
theorem remaining_eq (passes : Passes machine count) {index : Nat} (within : index ≤ count) :
    (machine.atGuard index).budget.remaining =
      machine.budget.remaining - machine.snapshot.total index := by
  have paid := passes.total_le within
  have covered := machine.budget.floor_le
  rw [passes.remaining_eq_max within]
  simp only [Budget.floor] at covered ⊢
  omega

theorem remaining_bounds (passes : Passes machine count) (funded : 0 < machine.budget.remaining)
    {index : Nat} (within : index ≤ count) :
    -5 ≤ (machine.atGuard index).budget.remaining ∧
      (machine.atGuard index).budget.remaining ≤ machine.budget.remaining := by
  have paid := passes.total_le within
  rw [passes.remaining_eq within]
  omega

theorem remaining_succ_lt (passes : Passes machine count) {index : Nat} (below : index < count) :
    (machine.atGuard (index + 1)).budget.remaining < (machine.atGuard index).budget.remaining := by
  have positive := (machine.snapshot.after index).price_pos
  have within : index + 1 ≤ count := below
  rw [passes.remaining_eq within, passes.remaining_eq (Nat.le_of_lt below), Snapshot.total_add,
    Snapshot.total_one]
  omega

end Passes

/-- A run on a positive budget ends, after as many instructions as the budget can buy. The guard
sees ever less, and whatever is drawn in between is drawn in full. -/
theorem execute_ends (machine : Machine Memory) (grant : Budget) (funded : 0 < grant.remaining) :
    let entered : Machine Memory := { machine with budget := grant }
    let left (index : Nat) : Int := (entered.atGuard index).budget.remaining
    let executed := (execute grant).run machine
    ∃ count : Nat,
      executed = (grant.remaining - left count,
        { entered.atGuard count with budget := machine.budget }) ∧
      (grant.remaining.toNat ⌈/⌉ 6 ≤ count ∧ (count : Int) ≤ grant.remaining) ∧
      (∀ index < count, 0 < left index ∧ left (index + 1) < left index) ∧
      left count ≤ 0 ∧
      (∀ index ≤ count, -5 ≤ left index ∧ left index ≤ grant.remaining) ∧
      (∀ index < count,
        Draws step (entered.atGuard index) (debits (step.run (entered.atGuard index)).1) ∧
        DrawsWithin step (entered.atGuard index) (-5) grant.remaining) ∧
      grant.remaining ≤ executed.1 ∧ executed.1 ≤ grant.remaining + 5 := by
  intro entered left executed
  rcases entered.exists_passes with ⟨count, passes⟩
  have result : executed = (grant.remaining - left count,
      { entered.atGuard count with budget := machine.budget }) := execute_run_eq passes
  have bounds (index : Nat) (within : index ≤ count) :
      -5 ≤ left index ∧ left index ≤ grant.remaining := passes.remaining_bounds funded within
  refine ⟨count, result, passes.pays.count_bounds funded, ?_, passes.exhausted, bounds, ?_, ?_⟩
  · intro index below
    exact ⟨passes.funded index below, passes.remaining_succ_lt below⟩
  · intro index below
    refine ⟨draws_step _, ?_⟩
    have before := bounds index (Nat.le_of_lt below)
    have after := bounds (index + 1) below
    simp only [left, atGuard_succ] at after
    exact drawsWithin_of_bounds (by decide) after.1 before.2
  · have last := bounds count (Nat.le_refl count)
    have exhausted : left count ≤ 0 := passes.exhausted
    rw [result]
    constructor <;> omega

/-- A program that never comes to an end is left all the same. -/
theorem execute_ends_callingItself :
    0 < (Budget.clamp 7).remaining ∧
      ∃ count : Nat,
        (2 ≤ count ∧ (count : Int) ≤ 7) ∧
        ({ callingItself with budget := .clamp 7 }.atGuard count).budget.remaining ≤ 0 ∧
        7 ≤ ((execute (.clamp 7)).run callingItself).1 ∧
        ((execute (.clamp 7)).run callingItself).1 ≤ 12 := by
  have funded : 0 < (Budget.clamp 7).remaining := by decide
  rcases execute_ends callingItself (.clamp 7) funded with
    ⟨count, _, number, _, exhausted, _, _, used⟩
  exact ⟨funded, count, number, exhausted, used⟩

end Machine

end Mos6502

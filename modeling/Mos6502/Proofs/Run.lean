import Mathlib.Algebra.BigOperators.Group.Finset.Basic
import Mos6502.Proofs.InstructionSet
import Mos6502.Proofs.Listening

/-!
# Runs as sequences of instructions

One instruction after the other makes a sequence of snapshots that knows nothing of budgets. A run
follows that sequence as long as what it has paid is less than its budget, so it executes the
shortest run of instructions that pays for the budget (`Machine.exists_pays_run`). What is true of
the sequence can therefore be said of every run without another induction over its steps.
-/

namespace Mos6502

namespace Snapshot

/-- The snapshot after one instruction, on a budget that pays for any. -/
def next (snapshot : Snapshot) : Snapshot :=
  (Machine.step.run ⟨snapshot.processor, snapshot.memory, .clamp 6, ()⟩).2.snapshot

def after (snapshot : Snapshot) (count : Nat) : Snapshot := next^[count] snapshot

/-- The tabulated cycles of the instruction at the program counter, one if there is none. -/
def price (snapshot : Snapshot) : Nat :=
  match Opcode.ofByte? (snapshot.code 0) with
  | some opcode => opcode.cycles
  | none => 1

def total (snapshot : Snapshot) (count : Nat) : Nat :=
  ∑ index ∈ Finset.range count, (snapshot.after index).price

/-- What a run tells of the instruction at the program counter. -/
def event (snapshot : Snapshot) : Event := .ofOutcome snapshot.processor.pc snapshot.outcome

def events (snapshot : Snapshot) (count : Nat) : List Event :=
  (List.range count).map fun index => (snapshot.after index).event

def withBudget (snapshot : Snapshot) (budget : Budget) : Machine Memory :=
  ⟨snapshot.processor, snapshot.memory, budget, ()⟩

@[simp]
theorem after_zero (snapshot : Snapshot) : snapshot.after 0 = snapshot := rfl

theorem after_add (snapshot : Snapshot) (first second : Nat) :
    snapshot.after (first + second) = (snapshot.after first).after second := by
  rw [after, Nat.add_comm, Function.iterate_add_apply]
  rfl

@[simp]
theorem total_zero (snapshot : Snapshot) : snapshot.total 0 = 0 := rfl

theorem total_one (snapshot : Snapshot) : snapshot.total 1 = snapshot.price := by
  simp [total]

theorem total_add (snapshot : Snapshot) (first second : Nat) :
    snapshot.total (first + second) =
      snapshot.total first + (snapshot.after first).total second := by
  rw [total, Finset.sum_range_add]
  simp only [after_add]
  rfl

theorem events_add (snapshot : Snapshot) (first second : Nat) :
    snapshot.events (first + second) =
      snapshot.events first ++ (snapshot.after first).events second := by
  rw [events, List.range_add, List.map_append, List.map_map]
  simp only [Function.comp_def, after_add]
  rfl

theorem price_eq_cost (snapshot : Snapshot) : snapshot.price = Machine.cost snapshot.outcome := by
  unfold price outcome
  cases Opcode.ofByte? (snapshot.code 0) <;> rfl

theorem price_pos (snapshot : Snapshot) : 0 < snapshot.price := by
  rw [price_eq_cost]
  exact Machine.cost_pos _

theorem price_le (snapshot : Snapshot) : snapshot.price ≤ 6 := by
  rw [price_eq_cost]
  exact Machine.cost_le _

theorem total_congr {left right : Snapshot} {count : Nat}
    (same : ∀ index < count, (left.after index).price = (right.after index).price) :
    left.total count = right.total count := by
  apply Finset.sum_congr rfl
  intro index member
  exact same index (Finset.mem_range.mp member)

theorem events_congr {left right : Snapshot} {count : Nat}
    (same : ∀ index < count, (left.after index).event = (right.after index).event) :
    left.events count = right.events count := by
  apply List.map_congr_left
  intro index member
  exact same index (List.mem_range.mp member)

/-- A number of instructions pays for an amount, and no smaller number does. -/
structure Pays (snapshot : Snapshot) (amount : Int) (count : Nat) : Prop where
  enough : amount ≤ snapshot.total count
  least : ∀ fewer < count, (snapshot.total fewer : Int) < amount

end Snapshot

namespace Snapshot.Pays

theorem zero {snapshot : Snapshot} {amount : Int} (nothing : amount ≤ 0) :
    Pays snapshot amount 0 where
  enough := by simpa using nothing
  least fewer below := absurd below (Nat.not_lt_zero fewer)

theorem eq_zero_iff {snapshot : Snapshot} {amount : Int} {count : Nat}
    (pays : Pays snapshot amount count) : count = 0 ↔ amount ≤ 0 := by
  constructor
  · rintro rfl
    simpa using pays.enough
  · intro nothing
    rcases Nat.eq_zero_or_pos count with none | some
    · exact none
    · have positive := pays.least 0 some
      simp only [total_zero, Int.natCast_zero] at positive
      omega

/-- The first instruction alone pays for one cycle. -/
theorem one (snapshot : Snapshot) : Pays snapshot 1 1 where
  enough := by
    rw [total_one]
    exact Int.ofNat_le.mpr snapshot.price_pos
  least fewer below := by
    rw [Nat.lt_one_iff.mp below, total_zero]
    exact Int.one_pos

/-- Paying goes on from where a smaller amount was paid. -/
theorem add {snapshot : Snapshot} {amount whole : Int} {first second : Nat}
    (slice : Pays snapshot amount first) (within : amount ≤ whole)
    (rest : Pays (snapshot.after first) (whole - snapshot.total first) second) :
    Pays snapshot whole (first + second) := by
  constructor
  · have enough := rest.enough
    rw [total_add]
    omega
  · intro fewer below
    rcases Nat.lt_or_ge fewer first with early | late
    · have := slice.least fewer early
      omega
    · rcases Nat.exists_eq_add_of_le late with ⟨further, rfl⟩
      have := rest.least further (by omega)
      rw [total_add]
      omega

theorem unique {snapshot : Snapshot} {amount : Int} {left right : Nat}
    (leftPays : Pays snapshot amount left) (rightPays : Pays snapshot amount right) :
    left = right := by
  have notLess : ¬left < right := fun less => by
    have := rightPays.least left less
    have := leftPays.enough
    omega
  have notGreater : ¬right < left := fun greater => by
    have := leftPays.least right greater
    have := rightPays.enough
    omega
  omega

/-- Instructions of the same prices pay for the same. -/
theorem congr {left right : Snapshot} {amount : Int} {count : Nat} (pays : Pays left amount count)
    (same : ∀ index < count, (left.after index).price = (right.after index).price) :
    Pays right amount count where
  enough := by
    rw [← total_congr same]
    exact pays.enough
  least fewer below := by
    rw [← total_congr fun index early => same index (Nat.lt_trans early below)]
    exact pays.least fewer below

/-- Only the last instruction overdraws, so the overdraft is less than the highest price. -/
theorem total_le {snapshot : Snapshot} {amount : Int} {count : Nat}
    (pays : Pays snapshot amount count) : (snapshot.total count : Int) ≤ max 0 (amount + 5) := by
  cases count with
  | zero => simp
  | succ count =>
      have before := pays.least count (Nat.lt_succ_self count)
      have last := (snapshot.after count).price_le
      rw [total_add, total_one]
      omega

end Snapshot.Pays

namespace Machine

open Snapshot (Pays)

@[simp]
theorem snapshot_withBudget (snapshot : Snapshot) (budget : Budget) :
    (snapshot.withBudget budget).snapshot = snapshot := rfl

theorem outcome_step (machine : Machine Memory) :
    (step.run machine).1 = machine.snapshot.outcome :=
  (executes_step machine).outcome_eq

theorem budget_step_eq_debit (machine : Machine Memory) :
    (step.run machine).2.budget = machine.budget.debit machine.snapshot.price := by
  rw [budget_step, outcome_step, Snapshot.price_eq_cost]

/-- A budget that can pay loses the whole price, and so the running total gains it. -/
theorem cycles_step_of_solvent {machine : Machine Memory}
    (solvent : Budget.floor + 6 ≤ machine.budget.remaining) :
    (step.run machine).2.processor.cycles =
      machine.processor.cycles + .ofInt machine.snapshot.price := by
  have cheap := machine.snapshot.price_le
  have lost : machine.budget.remaining - (step.run machine).2.budget.remaining =
      machine.snapshot.price := by
    rw [budget_step_eq_debit, Budget.remaining_debit]
    omega
  rw [(charges_step machine).total, lost]

theorem executes_next (snapshot : Snapshot) :
    Executes snapshot snapshot.outcome snapshot.next := by
  have executes := executes_step (snapshot.withBudget (.clamp 6))
  rw [outcome_step] at executes
  exact executes

theorem cycles_next (snapshot : Snapshot) :
    snapshot.next.processor.cycles = snapshot.processor.cycles + .ofInt snapshot.price := by
  have ample : Budget.floor + 6 ≤ (snapshot.withBudget (.clamp 6)).budget.remaining := by
    change Budget.floor + 6 ≤ (Budget.clamp 6).remaining
    decide
  exact cycles_step_of_solvent ample

/-- An instruction that its budget can pay for is the next one, whatever the budget. -/
theorem step_run_snd_of_solvent {machine : Machine Memory}
    (solvent : Budget.floor + 6 ≤ machine.budget.remaining) :
    (step.run machine).2 =
      machine.snapshot.next.withBudget (machine.budget.debit machine.snapshot.price) := by
  have total := (cycles_step_of_solvent solvent).trans (cycles_next machine.snapshot).symm
  have same := ((executes_step machine).unique (executes_next machine.snapshot) total).2
  refine Machine.ext ?_ ?_ (budget_step_eq_debit machine)
  · exact congrArg Snapshot.processor same
  · exact congrArg Snapshot.memory same

theorem stepEvent_run (machine : Machine Memory) :
    stepEvent.run machine = (machine.snapshot.event, (step.run machine).2) := by
  have told : stepEvent.run machine =
      (.ofOutcome machine.processor.pc (step.run machine).1, (step.run machine).2) := rfl
  rw [told, outcome_step]
  rfl

/-- While a budget is positive, a step takes the next instruction and debits its price. -/
theorem step_run_snd_of_funded {machine : Machine Memory} (funded : 0 < machine.budget.remaining) :
    (step.run machine).2 =
      machine.snapshot.next.withBudget (machine.budget.debit machine.snapshot.price) := by
  apply step_run_snd_of_solvent
  simp only [Budget.floor]
  omega

theorem exists_pays_run (machine : Machine Memory) :
    ∃ count, Pays machine.snapshot machine.budget.remaining count ∧
      machine.run =
        (machine.snapshot.after count).withBudget
          (machine.budget.debit (machine.snapshot.total count)) ∧
      machine.events = machine.snapshot.events count := by
  induction machine using run_induction with
  | exhausted machine nothing =>
      refine ⟨0, .zero nothing, ?_, ?_⟩
      · rw [run_of_exhausted nothing, Snapshot.total_zero, Budget.debit_zero]
        rfl
      · rw [events_of_exhausted nothing]
        rfl
  | funded machine funded ih =>
      have slice : Pays machine.snapshot 1 1 := .one machine.snapshot
      have cheap := machine.snapshot.price_le
      have remaining : (machine.budget.debit machine.snapshot.price).remaining =
          machine.budget.remaining - machine.snapshot.total 1 := by
        simp only [Budget.remaining_debit, Budget.floor, Snapshot.total_one]
        omega
      rw [step_run_snd_of_funded funded] at ih
      rcases ih with ⟨count, pays, ran, told⟩
      refine ⟨1 + count, slice.add (by omega) ?_, ?_, ?_⟩
      · rw [← remaining]
        exact pays
      · rw [run_of_funded funded, advance_run_snd, step_run_snd_of_funded funded, ran,
          Snapshot.after_add, Snapshot.total_add, Snapshot.total_one, ← Budget.debit_debit]
        rfl
      · rw [events_of_funded funded, stepEvent_run, step_run_snd_of_funded funded, told,
          Snapshot.events_add]
        rfl

theorem exists_pays_execute (machine : Machine Memory) (grant : Budget) :
    ∃ count, Pays machine.snapshot grant.remaining count ∧
      (execute grant).run machine =
        ((machine.snapshot.total count : Int),
          (machine.snapshot.after count).withBudget machine.budget) ∧
      machine.journal grant = (machine.snapshot.events count).map .ran := by
  rcases exists_pays_run { machine with budget := grant } with ⟨count, pays, ran, told⟩
  have executed : (execute grant).run machine =
      (grant.spent { machine with budget := grant }.run.budget,
        { { machine with budget := grant }.run with budget := machine.budget }) := rfl
  have overdraft : (machine.snapshot.total count : Int) ≤ max 0 (grant.remaining + 5) :=
    pays.total_le
  have left : grant.spent (grant.debit (machine.snapshot.total count)) =
      machine.snapshot.total count := by
    have := grant.floor_le
    simp only [Budget.spent, Budget.remaining_debit, Budget.floor] at this ⊢
    omega
  refine ⟨count, pays, ?_, (journal_eq machine grant).trans (congrArg (List.map Record.ran) told)⟩
  rw [executed, ran]
  exact congrArg (fun used : Int =>
    (used, (machine.snapshot.after count).withBudget machine.budget)) left

theorem execute_run_of_pays {machine : Machine Memory} {grant : Budget} {count : Nat}
    (pays : Pays machine.snapshot grant.remaining count) :
    (execute grant).run machine =
      ((machine.snapshot.total count : Int),
        (machine.snapshot.after count).withBudget machine.budget) := by
  rcases exists_pays_execute machine grant with ⟨_, exactly, executed, _⟩
  cases exactly.unique pays
  exact executed

theorem journal_of_pays {machine : Machine Memory} {grant : Budget} {count : Nat}
    (pays : Pays machine.snapshot grant.remaining count) :
    machine.journal grant = (machine.snapshot.events count).map .ran := by
  rcases exists_pays_execute machine grant with ⟨_, exactly, _, told⟩
  cases exactly.unique pays
  exact told

/-- An execution is the shortest sequence of instructions that pays for the budget. It returns what
they cost, which may be more than any budget can be. -/
theorem execute_run_eq_shortest_prefix (machine : Machine Memory) (grant : Budget) :
    ∃ count,
      grant.remaining ≤ machine.snapshot.total count ∧
      (∀ fewer < count, (machine.snapshot.total fewer : Int) < grant.remaining) ∧
      (count = 0 ↔ grant.remaining ≤ 0) ∧
      (machine.snapshot.total count : Int) < 2 ^ 63 ∧
      (execute grant).run machine =
        ((machine.snapshot.total count : Int),
          (machine.snapshot.after count).withBudget machine.budget) := by
  rcases exists_pays_execute machine grant with ⟨count, pays, executed, _⟩
  have bounded : (machine.snapshot.total count : Int) < 2 ^ 63 := by
    have := pays.total_le
    have := grant.le_ceiling
    simp only [Budget.ceiling] at this
    omega
  exact ⟨count, pays.enough, pays.least, pays.eq_zero_iff, bounded, executed⟩

end Machine

end Mos6502

import Mos6502.Machine.Step

/-!
# Runs

A run executes instructions while its budget is positive, and reports every byte that it passes
over. The budget is looked at between instructions only, so the last one may overdraw it. Every
instruction costs at least a cycle (`remaining_advance_lt`), therefore a run ends whatever program
it meets.
-/

namespace Mos6502.Machine

section

variable {σ τ : Type} [ByteStore σ] [Listener τ]

/-- Executes one instruction, or passes over a byte that is none and reports it. -/
def advance : StateM (Machine σ τ) Unit := do
  match ← step with
  | .ok _ => return ()
  | .error fault => report (.ran (.skipped fault))

theorem advance_run_of_ok {machine : Machine σ τ} {opcode : Opcode}
    (executed : (step.run machine).1 = .ok opcode) :
    advance.run machine = ((), (step.run machine).2) := by
  change StateT.run (match (step.run machine).1 with
    | .ok _ => _
    | .error fault => _) _ = _
  rw [executed]
  rfl

theorem advance_run_of_error {machine : Machine σ τ} {fault : UnknownOpcode}
    (passedOver : (step.run machine).1 = .error fault) :
    advance.run machine = ((), (step.run machine).2.heard (.ran (.skipped fault))) := by
  change StateT.run (match (step.run machine).1 with
    | .ok _ => _
    | .error fault => _) _ = _
  rw [passedOver]
  rfl

theorem budget_advance (machine : Machine σ τ) :
    (advance.run machine).2.budget = (step.run machine).2.budget := by
  cases answer : (step.run machine).1 with
  | ok opcode => rw [advance_run_of_ok answer]
  | error fault => rw [advance_run_of_error answer, budget_heard]

theorem remaining_advance_lt {machine : Machine σ τ} (funded : 0 < machine.budget.remaining) :
    (advance.run machine).2.budget.remaining < machine.budget.remaining := by
  rw [budget_advance, budget_step]
  exact Budget.remaining_debit_lt funded (cost_pos _)

/-- Executes instructions while the budget is positive. -/
def run (machine : Machine σ τ) : Machine σ τ :=
  if funded : 0 < machine.budget.remaining then run (advance.run machine).2 else machine
termination_by machine.budget.remaining.toNat
decreasing_by
  have less := remaining_advance_lt funded
  omega

/-- Runs on a budget of its own and returns the cycles spent, the overdraft of the last instruction
included. The machine keeps its budget. -/
def execute (grant : Budget) : StateM (Machine σ τ) Int := do
  let kept := (← get).budget
  modify fun machine => run { machine with budget := grant }
  let left := (← get).budget
  modify fun machine => { machine with budget := kept }
  return grant.spent left

/-- A run with an exhausted budget does nothing. -/
theorem run_of_exhausted {machine : Machine σ τ} (exhausted : machine.budget.remaining ≤ 0) :
    machine.run = machine := by
  rw [run, dif_neg (by omega)]

/-- A run with a positive budget takes a step and goes on. -/
theorem run_of_funded {machine : Machine σ τ} (funded : 0 < machine.budget.remaining) :
    machine.run = (advance.run machine).2.run := by
  rw [run, dif_pos funded]

end

section

variable {σ : Type} [ByteStore σ]

/-- Executes one instruction and tells what became of it. -/
def stepEvent : StateM (Machine σ) Event := do
  let address := (← get).processor.pc
  return .ofOutcome address (← step)

/-- What a run reports, as events in order. -/
def events (machine : Machine σ) : List Event :=
  (machine.reports (modify run)).filterMap Record.event?

/-- What the machine reports while it executes a budget. -/
def journal (grant : Budget) (machine : Machine σ) : List Record := machine.reports (execute grant)

/-- Where nobody listens, a run takes one step after the other. -/
@[simp]
theorem advance_run_snd (machine : Machine σ) :
    (advance.run machine).2 = (step.run machine).2 := by
  cases answer : (step.run machine).1 with
  | ok opcode => rw [advance_run_of_ok answer]
  | error fault => rw [advance_run_of_error answer, heard_unit]

/-- What holds of machines with nothing to spend, and passes from the machine after a step to the
one before it, holds of every machine. -/
theorem run_induction {motive : Machine σ → Prop}
    (exhausted : ∀ machine, machine.budget.remaining ≤ 0 → motive machine)
    (funded : ∀ machine, 0 < machine.budget.remaining → motive (step.run machine).2 →
      motive machine)
    (machine : Machine σ) : motive machine := by
  fun_induction run machine with
  | case1 machine positive ih =>
    rw [advance_run_snd] at ih
    exact funded machine positive ih
  | case2 machine notPositive => exact exhausted machine (by omega)

end

end Mos6502.Machine

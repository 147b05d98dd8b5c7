import Mathlib.Algebra.Ring.Int.Defs
import Mathlib.Algebra.Ring.Nat
import Mos6502.Proofs.Run
import Mos6502.Proofs.Session

/-!
# Calls on a shared budget

Every call debits what its kind of access costs, in one debit or in several, and debits add up even
where one of them meets the floor. So a session of calls is one debit of its total cost. What the
calls answer and do depends on the snapshot without its running total (`Call.make_eq_of_untimed`),
and a budget is no part of that.
-/

namespace Mos6502

namespace Receipt

/-- The cycles that a call takes, which its answer decides if it is a step. -/
def cost : Receipt → Nat
  | ⟨.fetchByte, _⟩ => 1
  | ⟨.fetchWord, _⟩ => 2
  | ⟨.readByte _, _⟩ => 1
  | ⟨.writeWord _ _, _⟩ => 2
  | ⟨.step, outcome⟩ => Machine.cost outcome

theorem cost_le (receipt : Receipt) : receipt.cost ≤ 6 := by
  rcases receipt with ⟨call, answer⟩
  cases call with
  | step => exact Machine.cost_le answer
  | _ => exact Nat.le_of_ble_eq_true rfl

end Receipt

namespace Snapshot

/-- The snapshot with its running total cleared. -/
def untimed (snapshot : Snapshot) : Snapshot :=
  { snapshot with processor := { snapshot.processor with cycles := 0 } }

theorem untimed_performed (before : Snapshot) (total : UInt64) :
    (before.performed total).untimed = before.untimed.performed 0 := by
  have same : before.untimed.outcome = before.outcome := rfl
  unfold performed
  rw [same]
  rcases before.outcome with fault | opcode
  · rfl
  · cases opcode <;> rfl

end Snapshot

namespace Machine

theorem untimed_step (machine : Machine Memory) :
    (step.run machine).2.snapshot.untimed = machine.snapshot.untimed.performed 0 := by
  rw [(executes_step machine).after_eq]
  exact Snapshot.untimed_performed _ _

end Machine

namespace Call

theorem budget_make (call : Call) (machine : Machine Memory) :
    (call.make.run machine).2.budget =
      machine.budget.debit (call.make.run machine).1.cost := by
  cases call with
  | fetchByte => rfl
  | fetchWord => exact machine.budget.debit_debit 1 1
  | readByte address => rfl
  | writeWord address word => rfl
  | step => exact Machine.budget_step machine

/-- No budget and no running total is looked at, so those of the bare machine do as well. -/
theorem make_eq_untimed (call : Call) (machine : Machine Memory) :
    let bare := machine.snapshot.untimed.withBudget (.clamp 0)
    (call.make.run machine).1 = (call.make.run bare).1 ∧
      (call.make.run machine).2.snapshot.untimed = (call.make.run bare).2.snapshot.untimed := by
  intro bare
  cases call with
  | step =>
      have outcome := (Machine.outcome_step machine).trans (Machine.outcome_step bare).symm
      have after := (Machine.untimed_step machine).trans (Machine.untimed_step bare).symm
      exact ⟨congrArg (Receipt.mk .step) outcome, after⟩
  | _ => exact ⟨rfl, rfl⟩

/-- Machines that differ in their budgets and running totals answer alike. -/
theorem make_eq_of_untimed {left right : Machine Memory}
    (same : left.snapshot.untimed = right.snapshot.untimed) (call : Call) :
    (call.make.run left).1 = (call.make.run right).1 ∧
      (call.make.run left).2.snapshot.untimed = (call.make.run right).2.snapshot.untimed := by
  rcases call.make_eq_untimed left with ⟨leftReceipt, leftAfter⟩
  rcases call.make_eq_untimed right with ⟨rightReceipt, rightAfter⟩
  rw [leftReceipt, leftAfter, rightReceipt, rightAfter, same]
  exact ⟨rfl, rfl⟩

end Call

namespace Machine

theorem budget_calls (machine : Machine Memory) (calls : List Call) :
    let made := (calls.mapM Call.make).run machine
    made.2.budget = machine.budget.debit (made.1.map Receipt.cost).sum := by
  apply session_induction Call.make
    (motive := fun machine receipts after =>
      after.budget = machine.budget.debit (receipts.map Receipt.cost).sum)
  case nil =>
      intro machine
      exact machine.budget.debit_zero.symm
  case cons =>
      intro first machine receipts after others
      rw [others, first.budget_make, Budget.debit_debit]
      rfl

theorem calls_eq_of_untimed {left right : Machine Memory}
    (same : left.snapshot.untimed = right.snapshot.untimed) (calls : List Call) :
    ((calls.mapM Call.make).run left).1 = ((calls.mapM Call.make).run right).1 ∧
      ((calls.mapM Call.make).run left).2.snapshot.untimed =
        ((calls.mapM Call.make).run right).2.snapshot.untimed := by
  induction calls generalizing left right with
  | nil => exact ⟨rfl, same⟩
  | cons call calls ih =>
      rcases call.make_eq_of_untimed same with ⟨receipt, sameAfter⟩
      rcases ih sameAfter with ⟨receipts, sameFinally⟩
      rw [run_mapM_cons, run_mapM_cons]
      exact ⟨congrArg₂ List.cons receipt receipts, sameFinally⟩

/-- A session of calls is one debit of its total cost. No call raises the budget or takes more than
six cycles from it, whatever came before, and no budget makes a call do or answer anything else. -/
theorem calls_spend_total (machine : Machine Memory) (calls : List Call) :
    let made := (calls.mapM Call.make).run machine
    let total := (made.1.map Receipt.cost).sum
    made.2.budget.remaining = max Budget.floor (machine.budget.remaining - total) ∧
      (∀ further : Call,
        let lost := made.2.budget.spent (further.make.run made.2).2.budget
        0 ≤ lost ∧ lost ≤ 6) ∧
      ∀ other : Budget,
        let again := (calls.mapM Call.make).run { machine with budget := other }
        again.1 = made.1 ∧ again.2.snapshot.untimed = made.2.snapshot.untimed := by
  intro made total
  refine ⟨?_, ?_, ?_⟩
  · exact congrArg Budget.remaining (machine.budget_calls calls)
  · intro further lost
    have cheap := (further.make.run made.2).1.cost_le
    have covered := made.2.budget.floor_le
    have taken : lost = min ((further.make.run made.2).1.cost : Int)
        (made.2.budget.remaining - Budget.floor) := by
      rw [← Budget.spent_debit, ← further.budget_make]
    omega
  · intro other again
    have same : ({ machine with budget := other } : Machine Memory).snapshot.untimed =
        machine.snapshot.untimed := rfl
    exact calls_eq_of_untimed same calls

end Machine

end Mos6502

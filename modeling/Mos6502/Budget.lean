/-!
# Cycle budgets

A budget is a count of cycles that may be overdrawn. It lies between two bounds, and a debit that
would pass the lower one stops there. So debits add up: two of them are one debit of the sum
(`debit_debit`), whatever bound was reached on the way.
-/

namespace Mos6502

namespace Budget

/-- The deepest overdraft. -/
def floor : Int := -2147483648

/-- The largest grant. -/
def ceiling : Int := 2147483647

end Budget

/-- Cycles that remain to be spent; below zero the budget is overdrawn. -/
structure Budget where
  remaining : Int
  floor_le : Budget.floor ≤ remaining
  le_ceiling : remaining ≤ Budget.ceiling
  deriving DecidableEq, Repr

namespace Budget

/-- The budget nearest to a number. -/
def clamp (number : Int) : Budget where
  remaining := max floor (min ceiling number)
  floor_le := Int.le_max_left _ _
  le_ceiling := Int.max_le.mpr ⟨by decide, Int.min_le_left _ _⟩

/-- Spends cycles, down to the deepest overdraft. -/
def debit (budget : Budget) (cycles : Nat) : Budget where
  remaining := max floor (budget.remaining - cycles)
  floor_le := Int.le_max_left _ _
  le_ceiling := Int.max_le.mpr ⟨by decide, by have := budget.le_ceiling; omega⟩

/-- What was spent between an earlier state of a budget and a later one. -/
def spent (earlier later : Budget) : Int := earlier.remaining - later.remaining

@[ext]
theorem ext {left right : Budget} (same : left.remaining = right.remaining) : left = right := by
  cases left
  cases right
  cases same
  rfl

theorem remaining_clamp {number : Int} (atLeast : floor ≤ number) (atMost : number ≤ ceiling) :
    (clamp number).remaining = number := by
  simp only [clamp]
  omega

@[simp]
theorem remaining_debit (budget : Budget) (cycles : Nat) :
    (budget.debit cycles).remaining = max floor (budget.remaining - cycles) := rfl

@[simp]
theorem debit_zero (budget : Budget) : budget.debit 0 = budget := by
  ext
  have := budget.floor_le
  simp only [remaining_debit]
  omega

@[simp]
theorem debit_debit (budget : Budget) (first second : Nat) :
    (budget.debit first).debit second = budget.debit (first + second) := by
  ext
  simp only [remaining_debit, floor]
  omega

/-- A debit takes what it asks for, as far as the floor allows. -/
theorem spent_debit (budget : Budget) (cycles : Nat) :
    budget.spent (budget.debit cycles) = min (cycles : Int) (budget.remaining - floor) := by
  simp only [spent, remaining_debit]
  omega

/-- A debit from a budget that is not exhausted shows. -/
theorem remaining_debit_lt {budget : Budget} {cycles : Nat} (funded : 0 < budget.remaining)
    (positive : 0 < cycles) : (budget.debit cycles).remaining < budget.remaining := by
  simp only [remaining_debit, floor]
  omega

end Budget

end Mos6502

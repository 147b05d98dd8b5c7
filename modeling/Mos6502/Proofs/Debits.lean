import Mathlib.Algebra.Ring.Nat
import Mos6502.Machine.Step

/-!
# Debits within an instruction

An instruction does not debit its price at once but access by access, and a debit that meets the
floor takes less than it asks for. An action is followed through its parts to the single debits
(`Draws`), so that the budget can be told between any two of them. If the floor is not reached in
the end, it was not reached on the way, and every debit took the whole of what it asked for
(`Machine.drawsWithin_of_bounds`).
-/

namespace Mos6502

theorem Budget.foldl_debit (budget : Budget) (debits : List Nat) :
    debits.foldl debit budget = budget.debit debits.sum := by
  induction debits generalizing budget with
  | nil => exact budget.debit_zero.symm
  | cons first others ih => rw [List.foldl_cons, ih, debit_debit, List.sum_cons]

namespace Machine

variable {σ : Type}

/-- The debits that an action makes on a machine, in order. -/
inductive Draws : {α : Type} → StateM (Machine σ) α → Machine σ → List Nat → Prop where
  | pure {α : Type} (value : α) (machine : Machine σ) : Draws (pure value) machine []
  | get (machine : Machine σ) : Draws get machine []
  | modifyProcessor (change : Processor → Processor) (machine : Machine σ) :
      Draws (modifyProcessor change) machine []
  | onMemory {α : Type} (action : StateM σ α) (machine : Machine σ) :
      Draws (onMemory action) machine []
  | report (record : Record) (machine : Machine σ) : Draws (report record) machine []
  | spend (cycles : Nat) (machine : Machine σ) : Draws (spend cycles) machine [cycles]
  | bind {α β : Type} {first : StateM (Machine σ) α} {rest : α → StateM (Machine σ) β}
      {machine : Machine σ} {debits others : List Nat} (start : Draws first machine debits)
      (finish : Draws (rest (first.run machine).1) (first.run machine).2 others) :
      Draws (first >>= rest) machine (debits ++ others)

/-- Every debit of an action takes the whole of what it asks for, and what is left after it lies
between two bounds. -/
def DrawsWithin {α : Type} (action : StateM (Machine σ) α) (machine : Machine σ)
    (lower upper : Int) : Prop :=
  ∀ debits, Draws action machine debits → ∀ made, made <+: debits →
    let left := (made.foldl Budget.debit machine.budget).remaining
    left = machine.budget.remaining - made.sum ∧ lower ≤ left ∧ left ≤ upper

/-- The debits of an instruction: each byte that it moves takes one, an internal operation takes
one, and a word that it stores takes two in one debit. -/
def debits : Except UnknownOpcode Opcode → List Nat
  | .ok .ldaImmediate => [1, 1]
  | .ok .ldaZeroPage => [1, 1, 1]
  | .ok .ldaZeroPageX => [1, 1, 1, 1]
  | .ok .jsr => [1, 1, 1, 2, 1]
  | .error _ => [1]

theorem Draws.budget_eq {α : Type} {action : StateM (Machine σ) α} {machine : Machine σ}
    {debits : List Nat} (draws : Draws action machine debits) :
    (action.run machine).2.budget = debits.foldl Budget.debit machine.budget := by
  induction draws with
  | pure value machine => rfl
  | get machine => rfl
  | modifyProcessor change machine => rfl
  | onMemory action machine => rfl
  | report record machine => rfl
  | spend cycles machine => rfl
  | bind start finish ihStart ihFinish =>
      rw [List.foldl_append, ← ihStart]
      exact ihFinish

/-- An action that leaves more than the floor met it nowhere. -/
theorem drawsWithin_of_bounds {α : Type} {action : StateM (Machine σ) α} {machine : Machine σ}
    {lower upper : Int} (above : Budget.floor < lower)
    (atLeast : lower ≤ (action.run machine).2.budget.remaining)
    (atMost : machine.budget.remaining ≤ upper) : DrawsWithin action machine lower upper := by
  rintro debits draws made ⟨others, rfl⟩ left
  have final : (action.run machine).2.budget.remaining =
      max Budget.floor (machine.budget.remaining - (made.sum + others.sum : Nat)) := by
    rw [draws.budget_eq, Budget.foldl_debit, List.sum_append]
    rfl
  have meanwhile : left = max Budget.floor (machine.budget.remaining - made.sum) := by
    unfold left
    rw [Budget.foldl_debit]
    rfl
  omega

variable [ByteStore σ] (machine : Machine σ)

theorem draws_readByte (address : Address) : Draws (readByte address) machine [1] :=
  .bind (.spend 1 _) (.onMemory _ _)

theorem draws_writeWord (address : Address) (word : Word) :
    Draws (writeWord address word) machine [2] :=
  .bind (.onMemory _ _) (.spend 2 _)

theorem draws_fetchByte : Draws fetchByte machine [1] :=
  .bind (.get _) (.bind (.modifyProcessor _ _) (draws_readByte _ _))

theorem draws_fetchWord : Draws fetchWord machine [1, 1] :=
  .bind (draws_fetchByte _) (.bind (draws_fetchByte _) (.pure _ _))

/-- The debits of an instruction after the fetch of its opcode. -/
theorem draws_perform (opcode : Opcode) :
    Draws (perform opcode) machine (debits (.ok opcode)).tail := by
  cases opcode with
  | ldaImmediate => exact .bind (draws_fetchByte _) (.modifyProcessor _ _)
  | ldaZeroPage =>
      have operand : Draws (operand .zeroPage) machine [1, 1] :=
        .bind (draws_fetchByte _) (draws_readByte _ _)
      exact .bind operand (.modifyProcessor _ _)
  | ldaZeroPageX =>
      have operand : Draws (operand .zeroPageX) machine [1, 1, 1] :=
        .bind (draws_fetchByte _) (.bind (.get _) (.bind (.spend 1 _) (draws_readByte _ _)))
      exact .bind operand (.modifyProcessor _ _)
  | jsr =>
      exact .bind (draws_fetchWord _)
        (.bind (.get _) (.bind (draws_writeWord _ _ _) (.bind (.modifyProcessor _ _) (.spend 1 _))))

theorem draws_fetchAndPerform :
    Draws fetchAndPerform machine (debits (fetchAndPerform.run machine).1) := by
  have looked : ((get : StateM (Machine σ) (Machine σ)).run machine).2 = machine := rfl
  cases decoded : Opcode.ofByte? (fetchByte.run machine).1 with
  | none =>
      rw [fetchAndPerform_run_of_unknown decoded]
      refine .bind (.get _) (.bind (draws_fetchByte _) ?_)
      rw [looked, decoded]
      exact .pure _ _
  | some opcode =>
      rw [fetchAndPerform_run_of_known decoded]
      have whole : debits (.ok opcode) =
          [] ++ ([1] ++ ([] ++ ((debits (.ok opcode)).tail ++ []))) := by
        cases opcode <;> rfl
      rw [whole]
      refine .bind (.get _) (.bind (draws_fetchByte _) ?_)
      rw [looked, decoded]
      exact .bind (.report _ _) (.bind (draws_perform _ opcode) (.pure _ _))

theorem draws_step : Draws step machine (debits (step.run machine).1) := by
  have alone : debits (step.run machine).1 =
      [] ++ (debits (fetchAndPerform.run machine).1 ++ ([] ++ ([] ++ []))) := by
    simp [step_run_fst]
  rw [alone]
  exact .bind (.get _)
    (.bind (draws_fetchAndPerform _) (.bind (.get _) (.bind (.modifyProcessor _ _) (.pure _ _))))

end Machine

end Mos6502

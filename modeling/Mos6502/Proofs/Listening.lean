import Mos6502.Machine.Run

/-!
# Who listens makes no difference

A listener hears what a machine does and cannot change it: with any listener a step, a run and an
execution do what they do where nobody listens (`Machine.step_withListener`,
`Machine.run_withListener`, `Machine.execute_withListener`). What is heard is known as well. A step
reports the opcode that it decodes and nothing else. A run adds a report for each byte that it
passes over, so it reports one event for each step (`Machine.events_of_funded`).
-/

namespace Mos6502

namespace Listener

variable {τ : Type} [Listener τ]

/-- What becomes of a listener during a step. -/
def afterStep (address : Address) (outcome : Except UnknownOpcode Opcode) (listener : τ) : τ :=
  match outcome with
  | .ok opcode => hear (.ran (.executed address opcode)) listener
  | .error _ => listener

/-- What becomes of a listener that hears some events, one after the other. -/
def hearAll (events : List Event) (listener : τ) : τ :=
  events.foldl (fun listener event => hear (.ran event) listener) listener

end Listener

open Listener (afterStep hear hearAll)

theorem Journal.records_hearAll (events : List Event) (journal : Journal) :
    (hearAll events journal).records = journal.records ++ events.map .ran := by
  induction events generalizing journal with
  | nil => exact (List.append_nil _).symm
  | cons event events ih =>
      rw [List.map_cons, List.append_cons, ← records_hear]
      exact ih (hear (.ran event) journal)

namespace Machine

variable {σ τ : Type} [ByteStore σ]

theorem perform_withListener (opcode : Opcode) (machine : Machine σ) (listener : τ) :
    (perform opcode).run (machine.withListener listener) =
      (((perform opcode).run machine).1,
        ((perform opcode).run machine).2.withListener listener) := by
  cases opcode <;> rfl

variable [Listener τ]

theorem fetchAndPerform_withListener (machine : Machine σ) (listener : τ) :
    fetchAndPerform.run (machine.withListener listener) =
      ((fetchAndPerform.run machine).1,
        (fetchAndPerform.run machine).2.withListener
          (afterStep machine.processor.pc (fetchAndPerform.run machine).1 listener)) := by
  cases decoded : Opcode.ofByte? (fetchByte.run machine).1 with
  | none =>
      have same : Opcode.ofByte? (fetchByte.run (machine.withListener listener)).1 = none := decoded
      rw [fetchAndPerform_run_of_unknown decoded, fetchAndPerform_run_of_unknown same]
      rfl
  | some opcode =>
      have same : Opcode.ofByte? (fetchByte.run (machine.withListener listener)).1 = some opcode :=
        decoded
      rw [fetchAndPerform_run_of_known decoded, fetchAndPerform_run_of_known same, heard_unit]
      have performed := perform_withListener opcode (fetchByte.run machine).2
        (hear (.ran (.executed machine.processor.pc opcode)) listener)
      have after := congrArg Prod.snd performed
      exact Prod.ext rfl after

/-- A step reports the opcode that it decodes, and is otherwise the step that nobody hears. -/
theorem step_withListener (machine : Machine σ) (listener : τ) :
    step.run (machine.withListener listener) =
      ((step.run machine).1,
        (step.run machine).2.withListener
          (afterStep machine.processor.pc (step.run machine).1 listener)) := by
  have performed := fetchAndPerform_withListener machine listener
  refine Prod.ext ?_ ?_
  · rw [step_run_fst, performed, step_run_fst]
  · rw [step_run_snd, performed, step_run_snd, step_run_fst]
    rfl

theorem stepEvent_run_fst (machine : Machine σ) :
    (stepEvent.run machine).1 = .ofOutcome machine.processor.pc (step.run machine).1 := rfl

/-- In a run every step is reported once, whether there was an instruction or not. -/
theorem advance_withListener (machine : Machine σ) (listener : τ) :
    (advance.run (machine.withListener listener)).2 =
      (step.run machine).2.withListener (hear (.ran (stepEvent.run machine).1) listener) := by
  have stepped := step_withListener machine listener
  rw [stepEvent_run_fst]
  cases answer : (step.run machine).1 with
  | ok opcode =>
      rw [answer] at stepped
      rw [advance_run_of_ok (congrArg Prod.fst stepped), stepped]
      rfl
  | error fault =>
      rw [answer] at stepped
      rw [advance_run_of_error (congrArg Prod.fst stepped), stepped]
      rfl

theorem run_withListener_of_exhausted {machine : Machine σ}
    (exhausted : machine.budget.remaining ≤ 0) (listener : τ) :
    (machine.withListener listener).run = machine.withListener listener :=
  run_of_exhausted exhausted

theorem run_withListener_of_funded {machine : Machine σ} (funded : 0 < machine.budget.remaining)
    (listener : τ) :
    (machine.withListener listener).run =
      ((step.run machine).2.withListener (hear (.ran (stepEvent.run machine).1) listener)).run := by
  have same : 0 < (machine.withListener listener).budget.remaining := funded
  rw [run_of_funded same, advance_withListener]

/-- The records that a journal holds before a run stay in front of what the run adds. -/
theorem records_run_withListener (machine : Machine σ) (journal : Journal) :
    (machine.withListener journal).run.listener.records =
      journal.records ++ (machine.withListener Journal.empty).run.listener.records := by
  induction machine using run_induction generalizing journal with
  | exhausted machine exhausted =>
      rw [run_withListener_of_exhausted exhausted, run_withListener_of_exhausted exhausted]
      exact (List.append_nil _).symm
  | funded machine funded ih =>
      rw [run_withListener_of_funded funded, run_withListener_of_funded funded,
        ih (hear _ journal), ih (hear _ .empty)]
      simp

theorem events_of_exhausted {machine : Machine σ} (exhausted : machine.budget.remaining ≤ 0) :
    machine.events = [] := by
  have nothing := run_withListener_of_exhausted exhausted Journal.empty
  change ((machine.withListener Journal.empty).run.listener.records.filterMap Record.event?) = []
  rw [nothing]
  rfl

theorem events_of_funded {machine : Machine σ} (funded : 0 < machine.budget.remaining) :
    machine.events = (stepEvent.run machine).1 :: (step.run machine).2.events := by
  change ((machine.withListener Journal.empty).run.listener.records.filterMap Record.event?) = _
  rw [run_withListener_of_funded funded, records_run_withListener, List.filterMap_append]
  rfl

/-- A run reports its events, and is otherwise the run that nobody hears. -/
theorem run_withListener (machine : Machine σ) (listener : τ) :
    (machine.withListener listener).run =
      machine.run.withListener (hearAll machine.events listener) := by
  induction machine using run_induction generalizing listener with
  | exhausted machine exhausted =>
      rw [run_withListener_of_exhausted exhausted, run_of_exhausted exhausted,
        events_of_exhausted exhausted]
      rfl
  | funded machine funded ih =>
      rw [run_withListener_of_funded funded, ih, run_of_funded funded, advance_run_snd,
        events_of_funded funded]
      rfl

/-- An execution reports the events of its run, and is otherwise the one that nobody hears. -/
theorem execute_withListener (machine : Machine σ) (grant : Budget) (listener : τ) :
    (execute grant).run (machine.withListener listener) =
      (((execute grant).run machine).1,
        ((execute grant).run machine).2.withListener
          (hearAll { machine with budget := grant }.events listener)) := by
  let entered : Machine σ := { machine with budget := grant }
  have executed : (execute grant).run (machine.withListener listener) =
      let ran := (entered.withListener listener).run
      (grant.spent ran.budget, { ran with budget := machine.budget }) := rfl
  rw [executed, run_withListener]
  rfl

theorem journal_eq (machine : Machine σ) (grant : Budget) :
    machine.journal grant = { machine with budget := grant }.events.map .ran := by
  rw [journal, reports, execute_withListener]
  exact Journal.records_hearAll _ .empty

end Machine

end Mos6502

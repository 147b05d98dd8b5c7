import Mos6502.Proofs.Run
import Mos6502.Proofs.Session

/-!
# Traces

A trace is a sequence of instructions of the reference with the events that tell of them. It leaves
the running totals open, so it has neither budgets nor their floor to reckon with, and every session
of turns is one (`Machine.traces_turns`). What each instruction keeps is therefore kept by every
such session, on whatever budgets, and by programs that rewrite themselves.
-/

namespace Mos6502

inductive Traces : Snapshot → List Event → Snapshot → Prop where
  | nil (snapshot : Snapshot) : Traces snapshot [] snapshot
  | cons {before middle after : Snapshot} {outcome : Except UnknownOpcode Opcode}
      {events : List Event} (first : Executes before outcome middle)
      (others : Traces middle events after) :
      Traces before (.ofOutcome before.processor.pc outcome :: events) after

theorem Traces.append {before middle after : Snapshot} {first second : List Event}
    (start : Traces before first middle) (finish : Traces middle second after) :
    Traces before (first ++ second) after := by
  induction start with
  | nil snapshot => exact finish
  | cons executes others ih => exact .cons executes (ih finish)

namespace Snapshot

theorem traces_after (snapshot : Snapshot) (count : Nat) :
    Traces snapshot (snapshot.events count) (snapshot.after count) := by
  induction count with
  | zero => exact .nil snapshot
  | succ count ih =>
      rw [events_add, after_add]
      apply ih.append
      exact .cons (Machine.executes_next (snapshot.after count)) (.nil _)

end Snapshot

namespace Machine

theorem traces_stepEvent (machine : Machine Memory) :
    Traces machine.snapshot [(stepEvent.run machine).1] (stepEvent.run machine).2.snapshot :=
  .cons (executes_step machine) (.nil _)

theorem traces_run (machine : Machine Memory) :
    Traces machine.snapshot machine.events machine.run.snapshot := by
  rcases exists_pays_run machine with ⟨count, _, ran, told⟩
  rw [ran, told]
  exact machine.snapshot.traces_after count

theorem traces_turn (machine : Machine Memory) (turn : Turn) :
    Traces machine.snapshot (turn.take.run machine).1 (turn.take.run machine).2.snapshot := by
  cases turn with
  | step budget => exact traces_stepEvent { machine with budget }
  | execute grant => exact traces_run { machine with budget := grant }

theorem traces_turns (machine : Machine Memory) (turns : List Turn) :
    let taken := (turns.mapM Turn.take).run machine
    Traces machine.snapshot taken.1.flatten taken.2.snapshot := by
  apply session_flatten Turn.take
    (motive := fun machine told after => Traces machine.snapshot told after.snapshot)
  case nil =>
      intro machine
      exact .nil machine.snapshot
  case append =>
      intro before first middle second after start finish
      exact start.append finish
  case single =>
      intro turn machine
      exact machine.traces_turn turn

end Machine

end Mos6502

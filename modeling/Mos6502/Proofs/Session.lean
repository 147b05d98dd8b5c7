import Mos6502.Machine.Run
import Mos6502.Memory.Basic

/-!
# Sessions

A host asks one thing of a machine after the other and keeps what each leaves behind, so a session
is a list that is mapped through the machine. A call spends from the budget that stands when it is
made, as calls on one budget variable do. A turn brings a budget of its own. What a session does
follows from what its first item does and what the others do after it (`session_induction`).
-/

namespace Mos6502

/-- What a host may ask of a machine on a budget that it shares among its calls. -/
inductive Call where
  | fetchByte
  | fetchWord
  | readByte (address : Address)
  | writeWord (address : Address) (word : Word)
  | step
  deriving DecidableEq, Repr

namespace Call

abbrev Answer : Call → Type
  | fetchByte => Byte
  | fetchWord => Word
  | readByte _ => Byte
  | writeWord _ _ => Unit
  | step => Except UnknownOpcode Opcode

def run : (call : Call) → StateM (Machine Memory) call.Answer
  | fetchByte => Machine.fetchByte
  | fetchWord => Machine.fetchWord
  | readByte address => Machine.readByte address
  | writeWord address word => Machine.writeWord address word
  | step => Machine.step

end Call

/-- A call that was made, and its answer. -/
structure Receipt where
  call : Call
  answer : call.Answer

def Call.make (call : Call) : StateM (Machine Memory) Receipt := do
  return ⟨call, ← call.run⟩

/-- A stretch of instructions on a budget of its own: a single step, which looks at no budget, or
an execution. -/
inductive Turn where
  | step (budget : Budget)
  | execute (grant : Budget)
  deriving DecidableEq, Repr

/-- Takes a turn and tells which instructions were executed or passed over in it. -/
def Turn.take : Turn → StateM (Machine Memory) (List Event)
  | step budget => do
    modify fun machine => { machine with budget }
    return [← Machine.stepEvent]
  | execute grant => do
    let told := { (← get) with budget := grant }.events
    let _ ← Machine.execute grant
    return told

section

variable {α β σ : Type} (act : α → StateM σ β)

theorem run_mapM_cons (item : α) (items : List α) (state : σ) :
    ((item :: items).mapM act).run state =
      let first := (act item).run state
      let others := (items.mapM act).run first.2
      (first.1 :: others.1, others.2) := by
  rw [List.mapM_cons]
  rfl

/-- What an item leaves behind is what it leaves in the state that the items before it lead to. -/
theorem getElem?_run_mapM {items : List α} {index : Nat} {item : α}
    (found : items[index]? = some item) (state : σ) :
    ((items.mapM act).run state).1[index]? =
      some ((act item).run (((items.take index).mapM act).run state).2).1 := by
  induction items generalizing index state with
  | nil => cases found
  | cons first items ih =>
      rw [run_mapM_cons]
      cases index with
      | zero =>
          cases found
          rfl
      | succ index =>
          rw [List.take_succ_cons, run_mapM_cons]
          exact ih found _

/-- A relation between a state, what was left behind and a later state, that holds of nothing done
and can be put off to after a first item, holds of every session. -/
theorem session_induction {motive : σ → List β → σ → Prop}
    (nil : ∀ state, motive state [] state)
    (cons : ∀ item state left final, motive ((act item).run state).2 left final →
      motive state (((act item).run state).1 :: left) final)
    (items : List α) (state : σ) :
    motive state ((items.mapM act).run state).1 ((items.mapM act).run state).2 := by
  induction items generalizing state with
  | nil => exact nil state
  | cons item items ih =>
      rw [run_mapM_cons]
      apply cons
      exact ih ((act item).run state).2

/-- If each item leaves a list behind, a relation that can be composed along such lists passes from
the items to the session. -/
theorem session_flatten {ε : Type} (act : α → StateM σ (List ε))
    {motive : σ → List ε → σ → Prop} (nil : ∀ state, motive state [] state)
    (append : ∀ before first middle second after, motive before first middle →
      motive middle second after → motive before (first ++ second) after)
    (single : ∀ item state, motive state ((act item).run state).1 ((act item).run state).2)
    (items : List α) (state : σ) :
    motive state ((items.mapM act).run state).1.flatten ((items.mapM act).run state).2 := by
  apply session_induction act (motive := fun state left final => motive state left.flatten final)
  case nil => exact nil
  case cons =>
      intro item state left final others
      exact append _ _ _ _ _ (single item state) others

end

end Mos6502

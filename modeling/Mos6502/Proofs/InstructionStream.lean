import Mathlib.Algebra.Ring.Nat
import Mos6502.Proofs.Session

/-!
# The instruction stream

The bytes from the program counter on are a stream, and a fetch takes the next one or the next two
of them. What is taken follows from the number of bytes that were taken before, not from the calls
that took them: the counter moves on by as many, the budget pays for as many, and nothing else
changes (`Machine.advanced`). So fetches in any mixture deliver the stream in order, past the last
address too, and a fetched word is the one that the bus loads there (`Machine.fetches_deliver`).
-/

namespace Mos6502

/-- The calls that take bytes from the instruction stream. -/
inductive Fetch where
  | byte
  | word
  deriving DecidableEq, Repr

namespace Fetch

def call : Fetch → Call
  | byte => .fetchByte
  | word => .fetchWord

/-- How many bytes are taken. -/
def width : Fetch → Nat
  | byte => 1
  | word => 2

end Fetch

/-- The bytes that a fetch delivered; a word counts as its low byte and then its high byte. -/
def Receipt.delivered : Receipt → List Byte
  | ⟨.fetchByte, byte⟩ => [byte]
  | ⟨.fetchWord, word⟩ => [Word.low word, Word.high word]
  | _ => []

namespace Machine

/-- The machine after a number of bytes have been taken. -/
def advanced (machine : Machine Memory) (count : Nat) : Machine Memory where
  processor := { machine.processor with pc := machine.processor.pc + .ofNat count }
  memory := machine.memory
  budget := machine.budget.debit count

/-- The next bytes of the instruction stream. -/
def stream (machine : Machine Memory) (count : Nat) : List Byte :=
  (List.range count).map fun distance =>
    machine.memory.read (machine.processor.pc + .ofNat distance)

theorem advanced_zero (machine : Machine Memory) : machine.advanced 0 = machine := by
  simp [advanced]

theorem advanced_add (machine : Machine Memory) (first second : Nat) :
    machine.advanced (first + second) = (machine.advanced first).advanced second := by
  simp [advanced, UInt16.ofNat_add, UInt16.add_assoc]

theorem stream_add (machine : Machine Memory) (first second : Nat) :
    machine.stream (first + second) =
      machine.stream first ++ (machine.advanced first).stream second := by
  simp [stream, advanced, List.range_add, UInt16.ofNat_add, UInt16.add_assoc]

theorem fetch_run_snd (machine : Machine Memory) (fetch : Fetch) :
    (fetch.call.make.run machine).2 = machine.advanced fetch.width := by
  cases fetch with
  | byte => rfl
  | word => exact (machine.advanced_add 1 1).symm

/-- A fetched word is the one that the bus loads, although the counter moves between its bytes. -/
theorem make_fetchWord_fst (machine : Machine Memory) :
    (Call.fetchWord.make.run machine).1 =
      ⟨.fetchWord, machine.memory.readWord machine.processor.pc⟩ := rfl

theorem delivered_fetch (machine : Machine Memory) (fetch : Fetch) :
    (fetch.call.make.run machine).1.delivered = machine.stream fetch.width := by
  cases fetch with
  | byte =>
      have answer : (Call.fetchByte.make.run machine).1 =
          ⟨.fetchByte, machine.memory.read machine.processor.pc⟩ := rfl
      simp [Fetch.call, answer, Receipt.delivered, stream, Fetch.width]
  | word =>
      simp [Fetch.call, make_fetchWord_fst, Receipt.delivered, stream, Fetch.width,
        Memory.readWord_eq, List.range_succ]

theorem fetches_run_snd (machine : Machine Memory) (fetches : List Fetch) :
    (((fetches.map Fetch.call).mapM Call.make).run machine).2 =
      machine.advanced (fetches.map Fetch.width).sum := by
  induction fetches generalizing machine with
  | nil => exact machine.advanced_zero.symm
  | cons fetch fetches ih =>
      rw [List.map_cons, run_mapM_cons, List.map_cons, List.sum_cons, advanced_add,
        ← fetch_run_snd]
      exact ih _

theorem delivered_fetches (machine : Machine Memory) (fetches : List Fetch) :
    (((fetches.map Fetch.call).mapM Call.make).run machine).1.flatMap Receipt.delivered =
      machine.stream (fetches.map Fetch.width).sum := by
  induction fetches generalizing machine with
  | nil => rfl
  | cons fetch fetches ih =>
      rw [List.map_cons, run_mapM_cons, List.map_cons, List.sum_cons, stream_add,
        ← delivered_fetch, ← fetch_run_snd, ← ih]
      exact List.flatMap_cons

/-- Fetches deliver the bytes from the program counter on, in order. Each fetched word is the one
that the bus loads where the counter stands, and the counter and the budget move by the bytes. -/
theorem fetches_deliver (machine : Machine Memory) (fetches : List Fetch) :
    let calls := fetches.map Fetch.call
    let done := (calls.mapM Call.make).run machine
    let count := (fetches.map Fetch.width).sum
    done.1.flatMap Receipt.delivered =
        (List.range count).map (fun distance =>
          machine.memory.read (machine.processor.pc + .ofNat distance)) ∧
      (∀ index, fetches[index]? = some .word →
        let before := (((calls.take index).mapM Call.make).run machine).2
        done.1[index]? =
          some ⟨.fetchWord, ((ByteStore.loadWord before.processor.pc).run before.memory).1⟩) ∧
      done.2.processor =
        { machine.processor with pc := machine.processor.pc + .ofNat count } ∧
      done.2.memory = machine.memory ∧
      done.2.budget.remaining = max Budget.floor (machine.budget.remaining - count) := by
  intro calls done count
  refine ⟨machine.delivered_fetches fetches, ?_, ?_⟩
  · intro index isWord
    have called : calls[index]? = some .fetchWord := by simp [calls, isWord, Fetch.call]
    rw [getElem?_run_mapM Call.make called machine, make_fetchWord_fst]
    rfl
  · have after : done.2 = machine.advanced count := machine.fetches_run_snd fetches
    rw [after]
    exact ⟨rfl, rfl, rfl⟩

end Machine

end Mos6502

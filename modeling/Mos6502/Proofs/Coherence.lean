import Mos6502.Machine.Reset
import Mos6502.Proofs.Trace

/-!
# Flags and the accumulator

The zero flag and the negative flag describe the last value that was loaded, and as only a load
changes the accumulator, they describe the accumulator from the first load on. Before that the two
may disagree, as they do after a reset. All other registers and flags but the program counter are
left alone by every instruction (`Follows`).
-/

namespace Mos6502

def Event.isLoad : Event → Bool
  | executed _ .ldaImmediate | executed _ .ldaZeroPage | executed _ .ldaZeroPageX => true
  | _ => false

/-- What a sequence of instructions may make of the registers other than the program counter. -/
structure Follows (before : Processor) (events : List Event) (after : Processor) : Prop where
  indexX : after.x = before.x
  indexY : after.y = before.y
  stack : after.sp = before.sp
  otherFlags : ∀ flag, flag ≠ .zero → flag ≠ .negative →
    after.status.get flag = before.status.get flag
  untouched : (¬∃ event ∈ events, event.isLoad) →
    after.a = before.a ∧ after.status = before.status
  described : (∃ event ∈ events, event.isLoad) →
    (after.status.get .zero ↔ after.a = 0) ∧ (after.status.get .negative ↔ 0x80 ≤ after.a)

namespace Follows

theorem refl (processor : Processor) : Follows processor [] processor where
  indexX := rfl
  indexY := rfl
  stack := rfl
  otherFlags _ _ _ := rfl
  untouched _ := ⟨rfl, rfl⟩
  described := by simp

theorem append {before middle after : Processor} {first second : List Event}
    (start : Follows before first middle) (finish : Follows middle second after) :
    Follows before (first ++ second) after where
  indexX := finish.indexX.trans start.indexX
  indexY := finish.indexY.trans start.indexY
  stack := finish.stack.trans start.stack
  otherFlags flag notZero notNegative :=
    (finish.otherFlags flag notZero notNegative).trans (start.otherFlags flag notZero notNegative)
  untouched unloaded := by
    simp only [List.mem_append, or_and_right, exists_or, not_or] at unloaded
    rcases unloaded with ⟨firstUnloaded, secondUnloaded⟩
    rcases start.untouched firstUnloaded with ⟨startValue, startStatus⟩
    rcases finish.untouched secondUnloaded with ⟨finishValue, finishStatus⟩
    exact ⟨finishValue.trans startValue, finishStatus.trans startStatus⟩
  described loaded := by
    simp only [List.mem_append, or_and_right, exists_or] at loaded
    -- The last load decides, and what follows it changes neither side.
    by_cases secondLoaded : ∃ event ∈ second, event.isLoad
    · exact finish.described secondLoaded
    · rcases finish.untouched secondLoaded with ⟨value, status⟩
      rw [value, status]
      exact start.described (loaded.resolve_right secondLoaded)

theorem of_loads {before after : Snapshot} {value : Byte} {event : Event}
    (load : event.isLoad) (loads : Loads before value after) :
    Follows before.processor [event] after.processor where
  indexX := loads.indexX
  indexY := loads.indexY
  stack := loads.stack
  otherFlags := loads.otherFlags
  untouched unloaded := by
    apply absurd _ unloaded
    exact ⟨event, List.mem_singleton_self event, load⟩
  described _ := by
    rw [loads.accumulator]
    exact ⟨loads.zero, loads.negative.trans (testBit_seven_iff value)⟩

theorem of_unchanged {before after : Processor} {event : Event} (other : event.isLoad = false)
    (accumulator : after.a = before.a) (indexX : after.x = before.x) (indexY : after.y = before.y)
    (stack : after.sp = before.sp) (flags : after.status = before.status) :
    Follows before [event] after where
  indexX := indexX
  indexY := indexY
  stack := stack
  otherFlags flag _ _ := congrArg (Status.get · flag) flags
  untouched _ := ⟨accumulator, flags⟩
  described := by simp [other]

/-- After a reset no flag is set, and zero is the only value that no load has left. -/
theorem of_initial {events : List Event} {after : Processor}
    (follows : Follows .initial events after) :
    ¬(after.status.get .zero ∧ after.status.get .negative) ∧
      (¬after.status.get .zero ∧ after.a = 0 → ¬∃ event ∈ events, event.isLoad) := by
  by_cases loaded : ∃ event ∈ events, event.isLoad
  · rcases follows.described loaded with ⟨zero, negative⟩
    constructor
    · rintro ⟨isZero, isNegative⟩
      have high := negative.mp isNegative
      rw [zero.mp isZero] at high
      exact absurd high (by decide)
    · rintro ⟨notZero, value⟩
      exact absurd (zero.mpr value) notZero
  · rcases follows.untouched loaded with ⟨_, status⟩
    refine ⟨?_, fun _ => loaded⟩
    rintro ⟨isZero, _⟩
    rw [status] at isZero
    cases isZero

end Follows

theorem Executes.follows {before after : Snapshot} {outcome : Except UnknownOpcode Opcode}
    (executes : Executes before outcome after) :
    Follows before.processor [.ofOutcome before.processor.pc outcome] after.processor := by
  cases executes with
  | ldaImmediate _ loads => exact .of_loads rfl loads
  | ldaZeroPage _ loads => exact .of_loads rfl loads
  | ldaZeroPageX _ loads => exact .of_loads rfl loads
  | jsr _ calls =>
      exact .of_unchanged rfl calls.accumulator calls.indexX calls.indexY calls.stack calls.flags
  | unknown _ skips =>
      exact .of_unchanged rfl skips.accumulator skips.indexX skips.indexY skips.stack skips.flags

theorem Traces.follows {before after : Snapshot} {events : List Event}
    (traces : Traces before events after) :
    Follows before.processor events after.processor := by
  induction traces with
  | nil snapshot => exact .refl snapshot.processor
  | cons executes others ih => exact executes.follows.append ih

theorem Snapshot.follows_after (snapshot : Snapshot) (count : Nat) :
    Follows snapshot.processor (snapshot.events count) (snapshot.after count).processor :=
  (snapshot.traces_after count).follows

namespace Machine

/-- What a session of turns makes of the registers, and what more can be said if it began with a
reset, whatever stood in memory. -/
theorem follows_turns (machine : Machine Memory) (turns : List Turn) :
    let taken := (turns.mapM Turn.take).run machine
    let booted := (turns.mapM Turn.take).run
      { (reset.run machine).2 with memory := machine.memory }
    let status := booted.2.processor.status
    Follows machine.processor taken.1.flatten taken.2.processor ∧
      taken.2.processor.status.toByte &&& 0x20 = 0 ∧
      ¬(status.get .zero ∧ status.get .negative) ∧
      (¬status.get .zero ∧ booted.2.processor.a = 0 →
        ¬∃ event ∈ booted.1.flatten, event.isLoad) := by
  intro taken booted status
  have fromReset := traces_turns { (reset.run machine).2 with memory := machine.memory } turns
  refine ⟨?_, ?_, ?_⟩
  · exact (machine.traces_turns turns).follows
  · exact taken.2.processor.status.toByte_and_unused
  · exact fromReset.follows.of_initial

end Machine

end Mos6502

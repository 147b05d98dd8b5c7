import Mos6502.Proofs.ControlFlow
import Mos6502.Proofs.Guards
import Mos6502.Text.FixedWidth

/-!
# Reports of a run

An execution reports each instruction that it executes, in order and once, to whoever listens
(`Machine.journal_reports`). The record is made from what stands at the program counter when the
instruction begins, so a program that rewrites itself is reported as it was when it ran. The address
is read back from the text of the record, and the addresses in the records follow each other as the
instructions do, except that a call goes on elsewhere. Single steps report the same instructions and
leave the bytes that are no opcodes to their answers.
-/

namespace Mos6502

open Text (field)
open Text.Hex (Writes)

namespace Record

/-- The address that the text of a record shows. -/
def address? (record : Record) : Option Address :=
  match record.level with
  | .trace => (Text.Hex.value? (field 2 4 record.message.toList)).map UInt16.ofNat
  | .warn => (Text.Hex.value? (field 35 4 record.message.toList)).map UInt16.ofNat
  | .debug => none

/-- The address after the instruction that the text of a record shows, unless it is a call. -/
def following? (record : Record) : Option Address :=
  match record.level with
  | .trace =>
    if field 7 3 record.message.toList = "LDA".toList then record.address?.map (· + 2) else none
  | .warn => record.address?.map (· + 1)
  | .debug => none

theorem value?_lower (address : Address) :
    (Text.Hex.value? (Text.Hex.lower 4 address.toNat).toList).map UInt16.ofNat = some address := by
  rw [(Text.Hex.writes_lower address.toNat_lt).value?_eq (by decide), Option.map_some,
    UInt16.ofNat_toNat]

theorem toList_message_executed (address : Address) (opcode : Opcode) :
    (ran (.executed address opcode)).message.toList =
      "0x".toList ++ ((Text.Hex.lower 4 address.toNat).toList ++
        (" ".toList ++ opcode.mnemonic.toList)) := by
  change ("0x" ++ Text.Hex.lower 4 address.toNat ++ " " ++ opcode.mnemonic).toList = _
  rw [String.toList_append, String.toList_append, String.toList_append, List.append_assoc,
    List.append_assoc]

theorem toList_message_skipped (fault : UnknownOpcode) :
    (ran (.skipped fault)).message.toList =
      "instruction not handled: 0x".toList ++ (Text.Hex.lower 2 fault.opcode.toNat).toList ++
        " at 0x".toList ++ (Text.Hex.lower 4 fault.address.toNat).toList := by
  change ("instruction not handled: 0x" ++ Text.Hex.lower 2 fault.opcode.toNat ++ " at 0x" ++
    Text.Hex.lower 4 fault.address.toNat).toList = _
  rw [String.toList_append, String.toList_append, String.toList_append]

theorem address?_executed (address : Address) (opcode : Opcode) :
    (ran (.executed address opcode)).address? = some address := by
  have shown : field 2 4 (ran (.executed address opcode)).message.toList =
      (Text.Hex.lower 4 address.toNat).toList := by
    rw [toList_message_executed]
    simp [Text.Hex.lower]
  rw [address?, shown]
  exact value?_lower address

theorem address?_skipped (fault : UnknownOpcode) :
    (ran (.skipped fault)).address? = some fault.address := by
  have narrow : (Text.Hex.lower 2 fault.opcode.toNat).toList.length = 2 :=
    (Text.Hex.writes_lower fault.opcode.toNat_lt).length
  have wide : (Text.Hex.lower 4 fault.address.toNat).toList.length = 4 :=
    (Text.Hex.writes_lower fault.address.toNat_lt).length
  have before : ("instruction not handled: 0x".toList ++
      (Text.Hex.lower 2 fault.opcode.toNat).toList ++ " at 0x".toList).length = 35 := by
    rw [List.length_append, List.length_append, narrow]
    rfl
  have shown : field 35 4 (ran (.skipped fault)).message.toList =
      (Text.Hex.lower 4 fault.address.toNat).toList := by
    rw [toList_message_skipped, Text.field_append_of_le (Nat.le_of_eq before), before, Nat.sub_self,
      Text.field_of_length wide]
  rw [address?, shown]
  exact value?_lower fault.address

theorem following?_executed (address : Address) (opcode : Opcode) :
    (ran (.executed address opcode)).following? =
      if opcode = .jsr then none else some (address + 2) := by
  have shown : field 7 3 (ran (.executed address opcode)).message.toList =
      opcode.mnemonic.toList := by
    rw [toList_message_executed]
    cases opcode <;> simp [Text.Hex.lower, Opcode.mnemonic]
  rw [following?, shown, address?_executed]
  cases opcode <;> rfl

theorem following?_skipped (fault : UnknownOpcode) :
    (ran (.skipped fault)).following? = some (fault.address + 1) := by
  rw [following?, address?_skipped]
  rfl

end Record

/-- A record tells of the instruction at the program counter: by its address and its mnemonic, or as
a byte that is no opcode. -/
inductive Reports (snapshot : Snapshot) (record : Record) : Prop where
  | load {address : String} (byte : snapshot.code 0 ∈ ([0xA9, 0xA5, 0xB5] : List Byte))
      (level : record.level = .trace)
      (writes : Writes .lower 4 snapshot.processor.pc.toNat address)
      (message : record.message = "0x" ++ address ++ " LDA")
  | call {address : String} (byte : snapshot.code 0 = 0x20) (level : record.level = .trace)
      (writes : Writes .lower 4 snapshot.processor.pc.toNat address)
      (message : record.message = "0x" ++ address ++ " JSR")
  | unknown {opcode address : String}
      (byte : snapshot.code 0 ∉ ([0xA9, 0xA5, 0xB5, 0x20] : List Byte))
      (level : record.level = .warn) (writesOpcode : Writes .lower 2 (snapshot.code 0).toNat opcode)
      (writes : Writes .lower 4 snapshot.processor.pc.toNat address)
      (message : record.message = "instruction not handled: 0x" ++ opcode ++ " at 0x" ++ address)

namespace Executes

variable {before after : Snapshot} {outcome : Except UnknownOpcode Opcode}

theorem reports (executes : Executes before outcome after) :
    Reports before (.ran (.ofOutcome before.processor.pc outcome)) := by
  have address : Writes .lower 4 before.processor.pc.toNat _ :=
    Text.Hex.writes_lower before.processor.pc.toNat_lt
  have byte : Writes .lower 2 (before.code 0).toNat _ :=
    Text.Hex.writes_lower (before.code 0).toNat_lt
  cases executes with
  | ldaImmediate opcode _ => exact .load (by simp [opcode]) rfl address (String.append_assoc ..)
  | ldaZeroPage opcode _ => exact .load (by simp [opcode]) rfl address (String.append_assoc ..)
  | ldaZeroPageX opcode _ => exact .load (by simp [opcode]) rfl address (String.append_assoc ..)
  | jsr opcode _ => exact .call opcode rfl address (String.append_assoc ..)
  | unknown opcode _ => exact .unknown opcode rfl byte address rfl

/-- What does not call goes on at the address after it. -/
theorem counter_of_following (executes : Executes before outcome after) {next : Address}
    (follows : (Record.ran (.ofOutcome before.processor.pc outcome)).following? = some next) :
    after.processor.pc = next := by
  cases executes with
  | unknown _ skips =>
      rw [Event.ofOutcome, Record.following?_skipped] at follows
      exact skips.counter.trans (Option.some.inj follows)
  | jsr _ calls =>
      rw [Event.ofOutcome, Record.following?_executed] at follows
      cases follows
  | ldaImmediate _ loads | ldaZeroPage _ loads | ldaZeroPageX _ loads =>
      rw [Event.ofOutcome, Record.following?_executed] at follows
      exact loads.counter.trans (Option.some.inj follows)

end Executes

namespace Snapshot

theorem reports_event (snapshot : Snapshot) : Reports snapshot (.ran snapshot.event) :=
  (Machine.executes_next snapshot).reports

theorem address?_event (snapshot : Snapshot) :
    (Record.ran snapshot.event).address? = some snapshot.processor.pc := by
  unfold event outcome
  cases Opcode.ofByte? (snapshot.code 0) with
  | none => exact Record.address?_skipped _
  | some opcode => exact Record.address?_executed _ opcode

theorem isChain_events (snapshot : Snapshot) (count : Nat) :
    ((snapshot.events count).map Record.ran).IsChain fun earlier later =>
      ∀ next, earlier.following? = some next → later.address? = some next := by
  rw [events, List.map_map, List.isChain_map, List.isChain_range]
  intro index _ next follows
  rw [Function.comp_apply, address?_event, Nat.succ_eq_add_one, after_add]
  exact congrArg some ((Machine.executes_next (snapshot.after index)).counter_of_following follows)

theorem counter_after {snapshot : Snapshot} {count : Nat} {last : Record} {next : Address}
    (final : ((snapshot.events count).map Record.ran).getLast? = some last)
    (follows : last.following? = some next) : (snapshot.after count).processor.pc = next := by
  cases count with
  | zero => cases final
  | succ count =>
      rw [events_add, List.map_append, List.getLast?_append] at final
      cases final
      rw [after_add]
      exact (Machine.executes_next (snapshot.after count)).counter_of_following follows

end Snapshot

namespace Machine

/-- Executes one instruction on a budget of its own. -/
def stepOn {σ τ : Type} [ByteStore σ] [Listener τ] (budget : Budget) :
    StateM (Machine σ τ) (Except UnknownOpcode Opcode) := do
  modify fun machine => { machine with budget }
  step

theorem sameControl_step {machine : Machine Memory} {snapshot : Snapshot}
    (same : SameControl machine.snapshot snapshot) :
    SameControl (step.run machine).2.snapshot snapshot.next := by
  rw [(executes_next snapshot).after_eq, (executes_step machine).after_eq]
  exact same.performed _ _

/-- A step reports an instruction as a run does, and nothing else. -/
theorem records_step (machine : Machine Memory Journal) :
    (step.run machine).2.listener.records =
      machine.listener.records ++
        [Record.ran (machine.withListener ()).snapshot.event].filter (·.level = .trace) := by
  have stepped := step_withListener (machine.withListener ()) machine.listener
  have heard := congrArg (·.2.listener.records) stepped
  refine heard.trans ?_
  rw [outcome_step, Snapshot.event]
  cases (machine.withListener ()).snapshot.outcome with
  | ok opcode => exact Journal.records_hear _ _
  | error fault => exact (List.append_nil _).symm

/-- Single steps meet the instructions of a run in the same order, whatever their budgets. -/
theorem records_steps (budgets : List Budget) {machine : Machine Memory Journal}
    {snapshot : Snapshot} (same : SameControl (machine.withListener ()).snapshot snapshot) :
    ((budgets.mapM stepOn).run machine).2.listener.records =
      machine.listener.records ++
        ((snapshot.events budgets.length).map Record.ran).filter (·.level = .trace) := by
  induction budgets generalizing machine snapshot with
  | nil => exact (List.append_nil _).symm
  | cons budget budgets ih =>
      let entered : Machine Memory Journal := { machine with budget }
      have stepped : (stepOn budget).run machine = step.run entered := rfl
      have sameStart : SameControl (entered.withListener ()).snapshot snapshot := same
      have heard := step_withListener (entered.withListener ()) entered.listener
      have silent : (step.run entered).2.withListener () = (step.run (entered.withListener ())).2 :=
        congrArg (·.2.withListener ()) heard
      have sameNext := sameControl_step sameStart
      rw [← silent] at sameNext
      rw [run_mapM_cons, stepped, ih sameNext, records_step, sameStart.event_eq, List.append_assoc,
        ← List.filter_append, List.length_cons, Nat.add_comm, Snapshot.events_add, List.map_append]
      rfl

/-- An execution reports every instruction that it executes once, in order and as it was when it
began, and nothing else. What is reported makes no difference to what is executed. -/
theorem journal_reports (machine : Machine Memory Journal) (grant : Budget) :
    let unheard : Machine Memory := machine.withListener ()
    let entered : Machine Memory := { unheard with budget := grant }
    let executed := (execute grant).run machine
    let stepped := step.run machine
    let told := unheard.journal grant
    ∃ count,
      Passes entered count ∧
      (execute grant).run unheard = (executed.1, executed.2.withListener ()) ∧
      executed.2.withListener () = { entered.atGuard count with budget := machine.budget } ∧
      executed.2.listener.records = machine.listener.records ++ told ∧
      told.length = count ∧
      (∀ index < count, ∃ record,
        told[index]? = some record ∧ Reports (entered.atGuard index).snapshot record) ∧
      (0 < grant.remaining →
        grant.remaining.toNat ⌈/⌉ 6 ≤ count ∧ (count : Int) ≤ grant.remaining) ∧
      (∃ record, Reports unheard.snapshot record ∧
        stepped.2.listener.records =
          machine.listener.records ++ [record].filter (·.level = .trace)) ∧
      (∀ budgets : List Budget, budgets.length = count →
        ((budgets.mapM stepOn).run machine).2.listener.records =
          machine.listener.records ++ told.filter (·.level = .trace)) ∧
      told.IsChain (fun earlier later =>
        ∀ next, earlier.following? = some next → later.address? = some next) ∧
      ∀ last next, told.getLast? = some last → last.following? = some next →
        executed.2.processor.pc = next := by
  intro unheard entered executed stepped told
  rcases entered.exists_passes with ⟨count, passes⟩
  have reported : told = (unheard.snapshot.events count).map .ran := journal_of_pays passes.pays
  have heard : executed = _ := execute_withListener unheard grant machine.listener
  have silent : (execute grant).run unheard = (executed.1, executed.2.withListener ()) := by
    rw [heard]
    rfl
  have ended : (execute grant).run unheard = _ := execute_run_of_pays passes.pays
  refine ⟨count, passes, silent, ?_, ?_, ?_, ?_, passes.pays.count_bounds, ?_, ?_, ?_, ?_⟩
  · exact (congrArg Prod.snd silent).symm.trans (congrArg Prod.snd (execute_run_eq passes))
  · have kept := Journal.records_hearAll entered.events machine.listener
    rw [← journal_eq] at kept
    exact (congrArg (·.2.listener.records) heard).trans kept
  · rw [reported, List.length_map, Snapshot.events, List.length_map, List.length_range]
  · intro index below
    refine ⟨.ran (unheard.snapshot.after index).event, ?_, ?_⟩
    · rw [reported]
      simp [Snapshot.events, below]
    · rw [passes.snapshot_eq (Nat.le_of_lt below)]
      exact Snapshot.reports_event _
  · exact ⟨_, unheard.snapshot.reports_event, records_step machine⟩
  · rintro budgets rfl
    rw [reported]
    exact records_steps budgets ⟨rfl, rfl, rfl⟩
  · rw [reported]
    exact unheard.snapshot.isChain_events count
  · intro last next final follows
    rw [reported] at final
    have counter := Snapshot.counter_after final follows
    have snapshots := congrArg (·.2.processor.pc) (silent.symm.trans ended)
    exact snapshots.trans counter

end Machine

end Mos6502

import Mos6502.Bus.Recorded
import Mos6502.Bus.SinglePage
import Mos6502.Bus.Wired
import Mos6502.Memory.Basic

/-!
# Words over cells

Words are moved byte by byte over any store, also over one where several addresses select one cell.
All that is asked of the store is that it behaves as cells (`SelectsCells`). What a stored word
leaves in the cells is told whatever addresses they answer to, and so is when the word can be read
back (`SelectsCells.word_access`): it cannot if its two bytes are different and fall on one cell.
-/

namespace Mos6502

open ByteStore (loadByte storeByte loadWord storeWord)

/-- A store behaves as cells, one of which each address selects: a load gives what its cell holds, a
store replaces that, and nothing else happens to any cell. -/
structure SelectsCells {σ Cell : Type} [ByteStore σ] (select : Address → Cell)
    (content : σ → Cell → Byte) : Prop where
  loaded : ∀ address store, ((loadByte address).run store).1 = content store (select address)
  undisturbed : ∀ address store, content ((loadByte address).run store).2 = content store
  stored : ∀ address byte store,
    content ((storeByte address byte).run store).2 (select address) = byte
  kept : ∀ address byte store cell, cell ≠ select address →
    content ((storeByte address byte).run store).2 cell = content store cell

theorem Memory.selectsCells : SelectsCells id read where
  loaded _ _ := rfl
  undisturbed _ _ := rfl
  stored address byte memory := memory.read_write_self address byte
  kept _ byte memory _ other := memory.read_write_of_ne byte other.symm

theorem SinglePage.selectsCells :
    SelectsCells Word.low fun (page : SinglePage) (cell : Byte) => page.cells[cell.toFin] where
  loaded _ _ := rfl
  undisturbed _ _ := rfl
  stored address byte page := by
    change (page.write address byte).read address = byte
    rw [read_write, if_pos rfl]
  kept address byte page cell other := by
    have elsewhere : (Word.low address).toNat ≠ cell.toNat :=
      fun same => other (UInt8.toNat_inj.mp same.symm)
    exact Vector.getElem_set_ne (Word.low address).toNat_lt cell.toNat_lt elsewhere

theorem Wired.selectsCells {Cell : Type} [DecidableEq Cell] (wiring : Address → Cell) :
    SelectsCells wiring (cells : Wired wiring → Cell → Byte) where
  loaded _ _ := rfl
  undisturbed _ _ := rfl
  stored address byte store := (store.read_write address address byte).trans (if_pos rfl)
  kept _ _ _ _ other := if_neg other.symm

namespace SelectsCells

variable {σ Cell : Type} [ByteStore σ] {select : Address → Cell} {content : σ → Cell → Byte}

theorem loadWord_eq (selects : SelectsCells select content) (address : Address) (store : σ) :
    ((loadWord address).run store).1 =
      Word.ofBytes (content store (select address)) (content store (select (address + 1))) := by
  rw [← selects.loaded, ← selects.undisturbed address store, ← selects.loaded]
  rfl

variable (selects : SelectsCells select content) (address : Address) (word : Word) (store : σ)

include selects

theorem content_storeWord_high :
    content ((storeWord address word).run store).2 (select (address + 1)) = Word.high word :=
  selects.stored (address + 1) (Word.high word) _

theorem content_storeWord_low (apart : select address ≠ select (address + 1)) :
    content ((storeWord address word).run store).2 (select address) = Word.low word := by
  have late := selects.kept (address + 1) (Word.high word)
    ((storeByte address (Word.low word)).run store).2 _ apart
  exact late.trans (selects.stored address (Word.low word) store)

theorem content_storeWord_of_ne {cell : Cell} (notLow : cell ≠ select address)
    (notHigh : cell ≠ select (address + 1)) :
    content ((storeWord address word).run store).2 cell = content store cell := by
  have late := selects.kept (address + 1) (Word.high word)
    ((storeByte address (Word.low word)).run store).2 _ notHigh
  exact late.trans (selects.kept address (Word.low word) store cell notLow)

/-- A word is read back unless the cell of its low byte has been overwritten with another byte. -/
theorem loadWord_storeWord_eq_iff :
    ((loadWord address).run ((storeWord address word).run store).2).1 = word ↔
      select address ≠ select (address + 1) ∨ Word.low word = Word.high word := by
  have high := selects.content_storeWord_high address word store
  rw [selects.loadWord_eq, high]
  by_cases same : select address = select (address + 1)
  · rw [same, high, Word.ofBytes_eq_iff]
    constructor
    · rintro ⟨equal, -⟩
      exact .inr equal.symm
    · rintro (apart | equal)
      · exact absurd rfl apart
      · exact ⟨equal.symm, rfl⟩
  · rw [selects.content_storeWord_low address word store same, Word.ofBytes_low_high]
    exact iff_of_true rfl (.inl same)

end SelectsCells

/-- Neighbouring addresses of the memory are different cells, also past the last address. -/
theorem Memory.loadWord_storeWord (memory : Memory) (address : Address) (word : Word) :
    ((loadWord address).run ((storeWord address word).run memory).2).1 = word := by
  have apart : address ≠ address + 1 := by simp
  exact (Memory.selectsCells.loadWord_storeWord_eq_iff address word memory).mpr (.inl apart)

/-- Neighbouring addresses differ in their low bytes. -/
theorem SinglePage.loadWord_storeWord (page : SinglePage) (address : Address) (word : Word) :
    ((loadWord address).run ((storeWord address word).run page).2).1 = word := by
  have apart : Word.low address ≠ Word.low (address + 1) := by
    intro same
    have lowBytes := congrArg UInt8.toNat same
    simp only [Word.toNat_low, UInt16.toNat_add, UInt16.toNat_one, Nat.reducePow] at lowBytes
    omega
  exact (SinglePage.selectsCells.loadWord_storeWord_eq_iff address word page).mpr (.inl apart)

namespace Recorded

variable {σ : Type} [ByteStore σ]

theorem accesses_loadWord (address : Address) (store : σ) :
    ((loadWord address).run (fresh store)).2.accesses =
      [.load address ((loadByte address).run store).1,
        .load (address + 1) ((loadByte (address + 1)).run ((loadByte address).run store).2).1] :=
  rfl

theorem accesses_storeWord (address : Address) (word : Word) (store : σ) :
    ((storeWord address word).run (fresh store)).2.accesses =
      [.store address (Word.low word), .store (address + 1) (Word.high word)] := rfl

end Recorded

namespace SelectsCells

variable {σ Cell : Type} [ByteStore σ] {select : Address → Cell} {content : σ → Cell → Byte}

/-- A stored word takes two writes, the low byte's first, and leaves its high byte and, in a cell of
its own, its low byte. Any word is then read from what the cells hold, with two loads. -/
theorem word_access (selects : SelectsCells select content) (store : σ) (address other : Address)
    (word : Word) :
    let stored := ((storeWord address word).run store).2
    content stored (select (address + 1)) = Word.high word ∧
      (select address ≠ select (address + 1) → content stored (select address) = Word.low word) ∧
      (∀ cell, cell ≠ select address → cell ≠ select (address + 1) →
        content stored cell = content store cell) ∧
      ((loadWord other).run stored).1.toNat =
        (content stored (select other)).toNat + 256 * (content stored (select (other + 1))).toNat ∧
      (((loadWord address).run stored).1 = word ↔
        select address ≠ select (address + 1) ∨ Word.low word = Word.high word) ∧
      (∀ memory : Memory,
        ((loadWord address).run ((storeWord address word).run memory).2).1 = word) ∧
      (∀ page : SinglePage,
        ((loadWord address).run ((storeWord address word).run page).2).1 = word) ∧
      ((storeWord address word).run (Recorded.fresh store)).2.accesses =
        [.store address (Word.low word), .store (address + 1) (Word.high word)] ∧
      ((loadWord other).run (Recorded.fresh stored)).2.accesses =
        [.load other (content stored (select other)),
          .load (other + 1) (content stored (select (other + 1)))] := by
  intro stored
  refine ⟨selects.content_storeWord_high address word store,
    selects.content_storeWord_low address word store, ?_, ?_,
    selects.loadWord_storeWord_eq_iff address word store, ?_, ?_,
    Recorded.accesses_storeWord address word store, ?_⟩
  · intro cell notLow notHigh
    exact selects.content_storeWord_of_ne address word store notLow notHigh
  · rw [selects.loadWord_eq, Word.toNat_ofBytes]
  · intro memory
    exact memory.loadWord_storeWord address word
  · intro page
    exact page.loadWord_storeWord address word
  · rw [Recorded.accesses_loadWord, selects.loaded, selects.loaded, selects.undisturbed]

/-- Where the lowest bit of an address is not looked at, an aligned word falls on one cell. -/
theorem word_access_halved :
    let halve (address : Address) : Address := address / 2
    let stored := ((storeWord 0x4242 0x1234).run (Wired.blank halve)).2
    SelectsCells halve (Wired.cells : Wired halve → Address → Byte) ∧
      stored.cells 0x2121 = 0x12 ∧ ((loadWord 0x4242).run stored).1 ≠ 0x1234 := by
  intro halve stored
  have selects := Wired.selectsCells halve
  rcases selects.word_access (Wired.blank halve) 0x4242 0 0x1234 with ⟨high, _, _, _, back, _⟩
  refine ⟨selects, high, ?_⟩
  intro same
  rcases back.mp same with apart | equal
  · exact apart rfl
  · exact absurd equal (by decide)

end SelectsCells

end Mos6502

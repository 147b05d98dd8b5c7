import Mos6502.Bus.Basic

/-!
# Recorded byte stores

A recorded store notes every access to the store that it wraps, in order, and changes nothing else
about it.
-/

namespace Mos6502

/-- One byte moved over the bus. -/
inductive Access where
  | load (address : Address) (byte : Byte)
  | store (address : Address) (byte : Byte)
  deriving DecidableEq, Repr

/-- A byte store together with the accesses made so far, the latest first. -/
structure Recorded (σ : Type) where
  store : σ
  /-- The accesses so far, the latest first. -/
  latest : List Access

namespace Recorded

variable {σ : Type}

/-- The store before any access. -/
def fresh (store : σ) : Recorded σ := ⟨store, []⟩

/-- The accesses so far, in order. -/
def accesses (recorded : Recorded σ) : List Access := recorded.latest.reverse

variable [ByteStore σ]

instance : ByteStore (Recorded σ) where
  loadByte address recorded :=
    let (byte, store) := (ByteStore.loadByte address).run recorded.store
    (byte, ⟨store, .load address byte :: recorded.latest⟩)
  storeByte address byte recorded :=
    let (_, store) := (ByteStore.storeByte address byte).run recorded.store
    ((), ⟨store, .store address byte :: recorded.latest⟩)

end Recorded

end Mos6502

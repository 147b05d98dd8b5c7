/-!
# Bytes, addresses and words

The machine moves bytes and forms addresses of two bytes, so both are the fixed-width integers whose
arithmetic wraps. A word lies in memory with its low byte first. The two halves determine the word
and the word its two halves (`ofBytes_low_high`, `low_ofBytes`, `high_ofBytes`).
-/

namespace Mos6502

/-- Eight bits, the unit of every bus access. -/
abbrev Byte := UInt8

/-- Sixteen bits that select a byte; the address after the last one is zero. -/
abbrev Address := UInt16

/-- Sixteen bits of data, held in memory as two bytes. -/
abbrev Word := UInt16

namespace Word

/-- The low-order byte of a word. -/
def low (word : Word) : Byte := word.toUInt8

/-- The high-order byte of a word. -/
def high (word : Word) : Byte := (word / 256).toUInt8

/-- The word with the given halves. -/
def ofBytes (low high : Byte) : Word := low.toUInt16 + 256 * high.toUInt16

@[simp]
theorem toNat_low (word : Word) : (low word).toNat = word.toNat % 256 := by
  simp [low]

@[simp]
theorem toNat_high (word : Word) : (high word).toNat = word.toNat / 256 := by
  have bound := word.toNat_lt
  simp only [high, UInt16.toNat_toUInt8, UInt16.toNat_div, UInt16.toNat_ofNat, Nat.reducePow,
    Nat.reduceMod]
  omega

@[simp]
theorem toNat_ofBytes (low high : Byte) :
    (ofBytes low high).toNat = low.toNat + 256 * high.toNat := by
  have lowBound := low.toNat_lt
  have highBound := high.toNat_lt
  simp only [ofBytes, UInt16.toNat_add, UInt16.toNat_mul, UInt8.toNat_toUInt16, UInt16.toNat_ofNat,
    Nat.reducePow, Nat.reduceMod]
  omega

@[simp]
theorem low_ofBytes (lower upper : Byte) : low (ofBytes lower upper) = lower := by
  apply UInt8.toNat_inj.mp
  have bound := lower.toNat_lt
  simp only [toNat_low, toNat_ofBytes]
  omega

@[simp]
theorem high_ofBytes (lower upper : Byte) : high (ofBytes lower upper) = upper := by
  apply UInt8.toNat_inj.mp
  have bound := lower.toNat_lt
  simp only [toNat_high, toNat_ofBytes]
  omega

@[simp]
theorem ofBytes_low_high (word : Word) : ofBytes (low word) (high word) = word := by
  apply UInt16.toNat_inj.mp
  simp only [toNat_ofBytes, toNat_low, toNat_high]
  omega

theorem ofBytes_eq_iff {lower upper : Byte} {word : Word} :
    ofBytes lower upper = word ↔ lower = low word ∧ upper = high word := by
  constructor
  · rintro rfl
    exact ⟨(low_ofBytes lower upper).symm, (high_ofBytes lower upper).symm⟩
  · rintro ⟨rfl, rfl⟩
    exact ofBytes_low_high word

end Word

end Mos6502

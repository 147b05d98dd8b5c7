import Mos6502.Image.Basic
import Mos6502.Machine.Basic

/-!
# Reset and loading

A reset gives every register its first value and clears the memory; the budget stays. An image is
loaded without the processor. Both are reported.
-/

namespace Mos6502.Machine

/-- A machine with cleared memory and nothing to spend, to which nobody listens. -/
def initial : Machine Memory where
  processor := .initial
  memory := .blank
  budget := .clamp 0

variable {τ : Type} [Listener τ]

/-- Gives every register its first value and clears the memory. -/
def reset : StateM (Machine Memory τ) Unit := do
  modify fun machine => { machine with processor := .initial, memory := .blank }
  report .reset

/-- Writes an image into memory. -/
def load (image : Image) : StateM (Machine Memory τ) Unit := do
  onMemory (modify image.loadInto)
  report (.loaded image.segments.length)

end Mos6502.Machine

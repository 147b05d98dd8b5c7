import Mos6502.Image.Parser
import Mos6502.Machine.Reset
import Mos6502.Machine.Run
import Mos6502.Text.Integer

/-!
# The command line

The command takes an image file and a budget, both optional: without an image a demonstration runs,
and without a budget eight cycles are granted. The machine is reset, the image loaded and the budget
executed; the answer shows the registers and the cycles used. A fault of the image is reported
before a fault of the budget, and nothing is run in either case.
-/

namespace Mos6502.CommandLine

/-- What the command is given. -/
inductive Arguments where
  | none
  /-- An image, as the bytes of its file or the reason why there are none, and further arguments, of
  which the first is the budget. -/
  | image (file : Except SystemError ByteArray) (further : List String)

/-- Why the command does not run the machine. -/
inductive Fault where
  | image (error : ImageError)
  /-- The budget is not a number that a budget can hold. -/
  | budget (fault : Text.IntegerFault)
  deriving DecidableEq, Repr

/-- What the command leaves behind. -/
structure Outcome where
  /-- Zero for success. -/
  exitCode : UInt8
  output : String
  errors : String
  deriving DecidableEq, Repr

/-- The fault of a numeral with its parts by name. -/
def reportInteger (fault : Text.IntegerFault) : String :=
  let kind := match fault with
    | .empty => "Empty"
    | .invalidDigit => "InvalidDigit"
    | .aboveRange => "PosOverflow"
    | .belowRange => "NegOverflow"
  "ParseIntError \x7b kind: " ++ kind ++ " \x7d"

/-- The fault with its parts by name. -/
def Fault.report : Fault → String
  | image error => error.report
  | budget fault => reportInteger fault

/-- The image that runs when none is given: a call of a subroutine that loads the accumulator. -/
def demonstration : String := "FFFC: 20 42 42\n4242: A9 64\n"

/-- The budget when none is given: a call and a load. -/
def defaultBudget : Budget := .clamp 8

/-- The image that the arguments select. -/
def selectImage : Arguments → Except ImageError Image
  | .none => Image.parse demonstration
  | .image file _ => Image.ofFile file

/-- The budget that a numeral grants. -/
def readBudget (numeral : String) : Except Text.IntegerFault Budget :=
  (Text.Integer.read Budget.floor Budget.ceiling numeral.toList).map Budget.clamp

/-- The budget that the arguments select. -/
def selectBudget : Arguments → Except Text.IntegerFault Budget
  | .image _ (numeral :: _) => readBudget numeral
  | _ => .ok defaultBudget

/-- The image and the budget, or the fault that comes first. -/
def prepare (arguments : Arguments) : Except Fault (Image × Budget) := do
  let image ← (selectImage arguments).mapError .image
  let budget ← (selectBudget arguments).mapError .budget
  return (image, budget)

/-- Executes a budget on a machine that has been reset and loaded. -/
def launch (image : Image) (budget : Budget) : StateM (Machine Memory) Int := do
  Machine.reset
  Machine.load image
  Machine.execute budget

/-- What a run of the machine prints. -/
def transcript (used : Int) (machine : Machine Memory) : String :=
  "Starting program...\n" ++ machine.processor.dump ++ "\n" ++ toString used ++ " cycle(s) used\n"

/-- What the command does. -/
def run (arguments : Arguments) : Outcome :=
  match prepare arguments with
  | .error fault => ⟨1, "", "Error: " ++ fault.report ++ "\n"⟩
  | .ok (image, budget) =>
    let (used, machine) := (launch image budget).run .initial
    ⟨0, transcript used machine, ""⟩

end Mos6502.CommandLine

import EnumHeader.Command.Sources
import EnumHeader.Header

/-!
# The command that generates the header

The header goes to a file, to the output of the program, or is compared with the file that exists. A
file that already holds the header is not written again.
-/

namespace EnumHeader.Command

set_option autoImplicit false

variable {m : Type → Type} [Monad m] [Host m]

inductive Delivery where
  | write
  | print
  /-- The file has to hold the header already. -/
  | check
  deriving Repr, DecidableEq, Inhabited

def header (sources : Sources) : ExceptT Failure m String := do
  let (config, definitions) ← load sources
  let timestamp ←
    if config.embedTimestamp then (do return some (← Host.now) : m (Option Timestamp))
    else pure none
  Header.generate config definitions timestamp

def writing (result : Except FileTree.Fault Unit) : ExceptT Failure m Unit :=
  match result with
  | .ok _ => return ()
  | .error fault => throw (.unwritable fault)

def writeBelow (path : Path) (text : String) : ExceptT Failure m Unit := do
  match path.parent? with
  | some above =>
      if ¬ above.IsEmpty then writing (← (Host.makeDirectories above : m _))
  | none => pure ()
  writing (← (Host.writeText path text : m _))

def holds (path : Path) (text : String) : m Bool := do
  match ← Host.readText path with
  | .ok found => return found == text
  | .error _ => return false

/-- Generates the header and delivers it. The result is the output of the program. -/
def generate (sources : Sources) (output : Path) (delivery : Delivery) :
    ExceptT Failure m String := do
  let text ← header sources
  match delivery with
  | .print => return text
  | .check =>
      if ← (holds output text : m Bool) then return "" else throw (.stale output.text)
  | .write =>
      if !(← (holds output text : m Bool)) then writeBelow output text
      return ""

end EnumHeader.Command

import EnumHeader.Command.Generate
import EnumHeader.Command.Starter

/-!
# The command that starts a project

The starter files are written to the current directory, the configuration first. Unless it is
forced, the command does nothing if one of them is already there.
-/

namespace EnumHeader.Command

set_option autoImplicit false

variable {m : Type → Type} [Monad m] [Host m]

def firstPresent : List (String × String) → m (Option String)
  | [] => return none
  | (name, _) :: rest => do
      if ← Host.isPresent (Path.ofText name) then return some name else firstPresent rest

/-- Writes the named files in their order, up to the first that cannot be written. -/
def writeAll : List (String × String) → ExceptT Failure m Unit
  | [] => return ()
  | (name, text) :: rest => do
      writing (← (Host.writeText (Path.ofText name) text : m _))
      writeAll rest

def nextSteps (format : Document.Format) : String :=
  textOfLines
    ["enumwright initialized.",
      "Next steps:",
      "  1. Edit enumwright." ++ format.extension ++ " to set the namespace and formatting",
      "  2. Describe your enums in enums." ++ format.extension,
      "  3. Run \x27enumwright generate -e enums." ++ format.extension ++
        "\x27 to write the header"]

def init (force : Bool) (format : Document.Format) : ExceptT Failure m String := do
  let files ← starterFiles format
  if !force then
    match ← (firstPresent files : m (Option String)) with
    | some name => throw (.misuse (.wouldOverwrite name))
    | none => pure ()
  writeAll files
  return nextSteps format

end EnumHeader.Command

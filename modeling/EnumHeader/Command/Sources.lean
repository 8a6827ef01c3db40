import EnumHeader.Config.Document
import EnumHeader.Declaration.Resolve
import EnumHeader.Host

/-!
# Sources

Where a command takes its configuration and its definitions from. A configuration that is named is
the one used. Otherwise the nearest file `enumwright.toml` counts, looked for in the current
directory and then in each directory above it; if there is none, the defaults apply. A file that was
chosen is final: if it cannot be used, the command fails.
-/

namespace EnumHeader

set_option autoImplicit false

variable {m : Type → Type} [Monad m] [Host m]

namespace Command

structure Sources where
  config : Option Path := none
  definitions : Path
  deriving Repr, DecidableEq, Inhabited

def readText (path : Path) : ExceptT Failure m String := do
  match ← (Host.readText path : m _) with
  | .ok text => return text
  | .error fault => throw (.unreadable path.text fault)

def loadConfig (path : Path) : ExceptT Failure m Config := do
  Config.parse path.format (← readText path)

def loadDefinitions (config : Config) (path : Path) : ExceptT Failure m (List Definition) := do
  Definition.parseAll config path.format (← readText path)

def configName : String :=
  "enumwright.toml"

/-- Where a configuration is looked for, nearest first. -/
def configCandidates (start : Path) : List Path :=
  start.ancestors.map (·.join configName)

def firstFile : List Path → m (Option Path)
  | [] => return none
  | path :: rest => do
      if ← Host.isFile path then return some path else firstFile rest

def nearestConfig (start : Path) : m (Option Path) :=
  firstFile (configCandidates start)

def resolveConfig (sources : Sources) : ExceptT Failure m Config := do
  match sources.config with
  | some path => loadConfig path
  | none =>
      match ← (do nearestConfig (← Host.currentDirectory) : m (Option Path)) with
      | some path => loadConfig path
      | none => return {}

def load (sources : Sources) : ExceptT Failure m (Config × List Definition) := do
  let config ← resolveConfig sources
  let definitions ← loadDefinitions config sources.definitions
  return (config, definitions)

end Command

end EnumHeader

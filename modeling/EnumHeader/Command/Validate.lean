import EnumHeader.Command.Sources
import EnumHeader.Cpp.Naming
import EnumHeader.Model
import EnumHeader.Validation

/-!
# The command that checks its sources

Nothing is written. Besides the rules for definitions, every model has to exist: a definition can be
valid and still ask for a default that its kind does not have.
-/

namespace EnumHeader.Command

set_option autoImplicit false

variable {m : Type → Type} [Monad m] [Host m]

def configReport (config : Config) : String :=
  "Configuration OK: " ++ toString config.sizeTypes.length ++ " size types, namespace " ++
    Document.backquoted config.namespaceText ++ "\n"

def definitionsReport (definitions : List Definition) : String :=
  let flags := (definitions.filter (·.kind = .flags)).length
  let entries := (definitions.flatMap (·.entries)).length
  "Validation passed: " ++ toString definitions.length ++ " enums (" ++
    toString (definitions.length - flags) ++ " value, " ++ toString flags ++ " flags), " ++
    toString entries ++ " entries\n"

def validate (sources : Sources) (configOnly : Bool) : ExceptT Failure m String := do
  if configOnly then
    return configReport (← resolveConfig sources)
  else
    let (config, definitions) ← load sources
    Validation.validate config definitions
    let _ ← Model.buildAll config definitions
    return definitionsReport definitions

end EnumHeader.Command

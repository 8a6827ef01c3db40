import EnumHeader.Default
import EnumHeader.Validity
import EnumHeader.Width

/-!
# Models

A definition with everything that a generated type says about it: its extreme entries, its default,
its distinct values, its widths and its validity check. A model is derived anew for each generation
and depends on the definition and the configuration only.
-/

namespace EnumHeader

set_option autoImplicit false

structure Metadata where
  /-- The position of the first entry with the smallest value. -/
  minEntry : Nat
  maxEntry : Nat
  default : DefaultValue
  /-- The distinct values, ascending. -/
  uniqueValues : List Int
  isContiguous : Bool
  storageBits : Nat
  transmissionBits : Nat
  /-- The bits that some flag uses; zero for a value enum. -/
  usedBits : Nat
  validity : Validity
  deriving Repr, DecidableEq, Inhabited

namespace Metadata

def uniqueCount (metadata : Metadata) : Nat :=
  metadata.uniqueValues.length

def ofValues (kind : Kind) (sizeType : SizeType) (default : DefaultValue) (values : List Int) :
    Metadata :=
  let unique := ValueSet.ofList values
  let min := values.min?.getD 0
  let max := values.max?.getD 0
  let shared : Metadata :=
    { minEntry := minIndex values
      maxEntry := maxIndex values
      default
      uniqueValues := unique
      isContiguous := ValueSet.isRun unique
      storageBits := Width.storage sizeType.signed min max
      transmissionBits := Width.transmission kind min max
      usedBits := 0
      validity := Validity.ofValues sizeType unique }
  match kind with
  | .value => shared
  | .flags =>
      let mask := ValueSet.usedBits unique
      { shared with
        isContiguous := ValueSet.isBlock mask
        storageBits := Width.unsigned max
        usedBits := mask
        validity := Validity.ofFlags sizeType mask }

end Metadata

structure Model where
  definition : Definition
  sizeType : SizeType
  metadata : Metadata
  deriving Repr, DecidableEq, Inhabited

namespace Model

/-- Derives the model of a definition. The definition need not be valid, but its storage type has to
be registered and its default has to exist. -/
def build (config : Config) (definition : Definition) : Except Failure Model :=
  match config.sizeTypes[definition.sizeIndex]? with
  | none =>
      .error (.unsupported
        (.unknownStorage definition.name definition.sizeIndex config.sizeTypes.length))
  | some sizeType => do
      let default ← definition.resolveDefault config
      return ⟨definition, sizeType,
        Metadata.ofValues definition.kind sizeType default definition.values⟩

def buildAll (config : Config) (definitions : List Definition) : Except Failure (List Model) :=
  definitions.mapM (build config)

variable (model : Model)

def name : String :=
  model.definition.name

def kind : Kind :=
  model.definition.kind

def entryAt (index : Nat) : Entry :=
  model.definition.entries[index]?.getD default

def least : Entry :=
  model.entryAt model.metadata.minEntry

def greatest : Entry :=
  model.entryAt model.metadata.maxEntry

def defaultValue : Int :=
  model.metadata.default.value model.definition.entries

def defaultEntry? : Option Entry :=
  match model.metadata.default with
  | .entry index => some (model.entryAt index)
  | .raw _ => none

/-- The first entry of each distinct value, in ascending order of the values. These are the names
that values are shown by. -/
def canonicalEntries : List Entry :=
  model.metadata.uniqueValues.filterMap fun value =>
    model.definition.entries.find? (·.value = value)

end Model

end EnumHeader

import EnumHeader.Config
import EnumHeader.ValueSet

/-!
# Default values

What a default-constructed instance holds. An entry named by the definition wins; otherwise the
style of the definition, or else the style that the configuration has for the kind, picks a value.
A flags default is an entry whenever one has exactly that value, and a bare mask otherwise.
-/

namespace EnumHeader

set_option autoImplicit false

inductive DefaultValue where
  | entry (index : Nat)
  /-- A mask that no entry has as its value. -/
  | raw (value : Int)
  deriving Repr, DecidableEq, Inhabited

namespace DefaultValue

def value (entries : List Entry) : DefaultValue → Int
  | .entry index => (entries[index]?.getD default).value
  | .raw value => value

end DefaultValue

def minIndex (values : List Int) : Nat :=
  values.idxOf (values.min?.getD 0)

def maxIndex (values : List Int) : Nat :=
  values.idxOf (values.max?.getD 0)

/-- The default entry of a value enum by style alone. -/
def valueDefault (style : DefaultStyle) (values : List Int) : Except Failure Nat :=
  if values.isEmpty then .error (.misuse .defaultWithoutEntries)
  else
    match style with
    | .min => .ok (minIndex values)
    | .max => .ok (maxIndex values)
    | .first => .ok 0
    | .last => .ok (values.length - 1)
    | .zero | .usedBitsSet => .error (.misuse (.styleNeedsFlags style))

/-- The default mask of a flags enum by style alone. -/
def flagsDefault (style : DefaultStyle) (values : List Int) : Except Failure Int :=
  if values.isEmpty then .error (.misuse .defaultWithoutEntries)
  else
    match style with
    | .zero => .ok 0
    | .min => .ok (values.min?.getD 0)
    | .max => .ok (values.max?.getD 0)
    | .first => .ok (values.head?.getD 0)
    | .last => .ok (values.getLast?.getD 0)
    | .usedBitsSet => .ok (Integer.ofPattern (ValueSet.usedBits values))

namespace Definition

def effectiveStyle (definition : Definition) (config : Config) : DefaultStyle :=
  definition.defaultStyle.getD (config.defaultStyle definition.kind)

def resolveDefault (definition : Definition) (config : Config) : Except Failure DefaultValue :=
  match definition.defaultName with
  | some name =>
      match definition.indexOf? name with
      | some index => .ok (.entry index)
      | none => .error (.violation (.unknownDefault definition.name name))
  | none =>
      let style := definition.effectiveStyle config
      match definition.kind with
      | .value => do
          let index ← valueDefault style definition.values
          return .entry index
      | .flags => do
          let value ← flagsDefault style definition.values
          match definition.values.findIdx? (· = value) with
          | some index => return .entry index
          | none => return .raw value

end Definition

end EnumHeader

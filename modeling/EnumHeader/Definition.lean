/-!
# Enum definitions

What a header is generated from: enums with named, described integer entries. A value enum holds
exactly one of its entries; a flags enum holds any combination of its entries' bits. The storage
type is an index into the registry of the configuration.
-/

namespace EnumHeader

set_option autoImplicit false

inductive Kind where
  | value
  | flags
  deriving Repr, DecidableEq, Inhabited

def Kind.text : Kind → String
  | .value => "value"
  | .flags => "flags"

/-- The rule that picks what a default-constructed instance holds. -/
inductive DefaultStyle where
  /-- The entry with the smallest value, the first one of several. -/
  | min
  | max
  | first
  | last
  /-- No bit set; for flags only. -/
  | zero
  /-- Every declared bit set; for flags only. -/
  | usedBitsSet
  deriving Repr, DecidableEq, Inhabited

def DefaultStyle.text : DefaultStyle → String
  | .min => "min"
  | .max => "max"
  | .first => "first"
  | .last => "last"
  | .zero => "zero"
  | .usedBitsSet => "used_bits_set"

def DefaultStyle.choices : List (String × DefaultStyle) :=
  [.min, .max, .first, .last, .zero, .usedBitsSet].map fun style => (style.text, style)

/-- The style says something about values of this kind. -/
def DefaultStyle.AppliesTo (style : DefaultStyle) : Kind → Prop
  | .flags => True
  | .value => style ≠ .zero ∧ style ≠ .usedBitsSet

instance (style : DefaultStyle) : (kind : Kind) → Decidable (style.AppliesTo kind)
  | .flags => isTrue trivial
  | .value => inferInstanceAs (Decidable (_ ∧ _))

structure Entry where
  name : String
  value : Int
  description : String := ""
  deriving Repr, DecidableEq, Inhabited

structure Definition where
  name : String
  kind : Kind
  entries : List Entry
  description : String := ""
  /-- The entry a default-constructed instance holds; it wins over any style. -/
  defaultName : Option String := none
  /-- Wins over the style that the configuration has for the kind. -/
  defaultStyle : Option DefaultStyle := none
  sizeIndex : Nat
  deriving Repr, DecidableEq, Inhabited

namespace Definition

def values (definition : Definition) : List Int :=
  definition.entries.map Entry.value

def entryNames (definition : Definition) : List String :=
  definition.entries.map Entry.name

def indexOf? (definition : Definition) (name : String) : Option Nat :=
  definition.entries.findIdx? (·.name = name)

end Definition

end EnumHeader

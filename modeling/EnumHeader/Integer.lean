/-!
# Entry values

An entry holds an integer of 128 bits in two's complement. Values are kept as `Int`; this module
holds the bounds of that range and the bit pattern of a value. Powers are named in full here and in
what follows, so that they are the same functions whatever else is imported.
-/

namespace EnumHeader.Integer

set_option autoImplicit false

def width : Nat := 128

def least : Int := -Int.pow 2 127

def greatest : Int := Int.pow 2 127 - 1

def Fits (value : Int) : Prop :=
  least ≤ value ∧ value ≤ greatest

instance (value : Int) : Decidable (Fits value) :=
  inferInstanceAs (Decidable (_ ∧ _))

/-- The 128 bits of a value, read as a natural number. -/
def pattern (value : Int) : Nat :=
  (value % Int.pow 2 128).toNat

def ofPattern (bits : Nat) : Int :=
  if bits < Nat.pow 2 127 then bits else bits - Int.pow 2 128

end EnumHeader.Integer

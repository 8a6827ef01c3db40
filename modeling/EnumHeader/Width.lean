import EnumHeader.Definition
import EnumHeader.Integer

/-!
# Bit widths

How many bits an enum needs: in storage, where every value has to fit a field of the storage type's
signedness, and in transmission, where only the values have to be told apart.
-/

namespace EnumHeader.Width

set_option autoImplicit false

/-- The length of the binary numeral; zero has none. -/
def ofNat (n : Nat) : Nat :=
  if n = 0 then 0 else n.log2 + 1

/-- The width of an unsigned field that holds everything from zero to `max`. -/
def unsigned (max : Int) : Nat :=
  ofNat max.toNat

/-- The width of a two's complement field that holds both bounds. A positive bound needs a sign bit
above its numeral; the field of only zero has no bit at all. -/
def signed (min max : Int) : Nat :=
  let positive := if 0 < max then ofNat max.toNat + 1 else 0
  let negative := if min < 0 then ofNat (-(min + 1)).toNat + 1 else 0
  Nat.max positive negative

def storage (isSigned : Bool) (min max : Int) : Nat :=
  if isSigned then signed min max else unsigned max

/-- Transmission: a value enum sends the distance from its minimum, taken modulo 2^128, a flags enum
sends its bits. -/
def transmission (kind : Kind) (min max : Int) : Nat :=
  match kind with
  | .value => ofNat (Integer.pattern (max - min))
  | .flags => unsigned max

end EnumHeader.Width

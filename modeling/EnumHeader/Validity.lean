import EnumHeader.Storage
import EnumHeader.ValueSet

/-!
# Validity checks

A generated type says which values of its storage type are its own. The check takes the cheapest
form that the values allow, given that the value under test already lies in the storage range; what
each form accepts is `Validity.accepts`.
-/

namespace EnumHeader

set_option autoImplicit false

inductive Validity where
  | singleValue (value : Int)
  /-- Every value of the storage type belongs. -/
  | always
  /-- A run from the smallest value of the storage type. -/
  | upperBound (max : Int)
  /-- A run up to the largest value of the storage type. -/
  | lowerBound (min : Int)
  | range (min max : Int)
  /-- The values have gaps, so the ascending table of values is searched. -/
  | scan (values : List Int)
  /-- Flags that fill the bits from the lowest one on. -/
  | flagsLowMask (mask : Nat)
  /-- Any other flags: no bit outside the mask. -/
  | flagsMask (mask : Nat)
  deriving Repr, DecidableEq, Inhabited

namespace Validity

def accepts : Validity → Int → Bool
  | .singleValue value, v => v == value
  | .always, _ => true
  | .upperBound max, v => v ≤ max
  | .lowerBound min, v => min ≤ v
  | .range min max, v => min ≤ v && v ≤ max
  | .scan values, v => ValueSet.search values v
  | .flagsLowMask mask, v => 0 ≤ v && v.toNat ≤ mask
  | .flagsMask mask, v => 0 ≤ v && v.toNat ||| mask == mask

def ofValues (sizeType : SizeType) (values : List Int) : Validity :=
  match values.head?, values.getLast? with
  | some min, some max =>
      if values.length = 1 then .singleValue min
      else if !ValueSet.isRun values then .scan values
      else if min = sizeType.lowest then
        if max = sizeType.highest then .always else .upperBound max
      else if max = sizeType.highest then .lowerBound min
      else .range min max
  | _, _ => .scan []

def ofFlags (sizeType : SizeType) (mask : Nat) : Validity :=
  if (mask : Int) = sizeType.highest then .always
  else if ValueSet.isBlock mask && mask % 2 == 1 then .flagsLowMask mask
  else .flagsMask mask

end Validity

end EnumHeader

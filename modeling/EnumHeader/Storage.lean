import EnumHeader.Integer

/-!
# Storage types

An enum is stored in an integer type of a registry. The range of such a type is the range of its
width and signedness, cut off where entry values end: an unsigned type of 127 or 128 bits reaches no
further than the largest entry value.
-/

namespace EnumHeader

set_option autoImplicit false

structure SizeType where
  name : String
  bits : Nat
  signed : Bool := false
  /-- What the generated source calls the type. -/
  typeName : String
  deriving Repr, DecidableEq, Inhabited

namespace SizeType

/-- Widths outside 1 to 128 count as the nearest width inside. -/
def effectiveBits (sizeType : SizeType) : Nat :=
  max 1 (min sizeType.bits 128)

def lowest (sizeType : SizeType) : Int :=
  if sizeType.signed then -Int.pow 2 (sizeType.effectiveBits - 1) else 0

/-- The largest value of the type that an entry can have. -/
def highest (sizeType : SizeType) : Int :=
  if sizeType.signed then Int.pow 2 (sizeType.effectiveBits - 1) - 1
  else min (Int.pow 2 sizeType.effectiveBits - 1) Integer.greatest

def Holds (sizeType : SizeType) (value : Int) : Prop :=
  sizeType.lowest ≤ value ∧ value ≤ sizeType.highest

instance (sizeType : SizeType) (value : Int) : Decidable (sizeType.Holds value) :=
  inferInstanceAs (Decidable (_ ∧ _))

/-- The registry of a configuration that names none of its own. -/
def standard : List SizeType :=
  [⟨"int8", 8, true, "std::int8_t"⟩, ⟨"int16", 16, true, "std::int16_t"⟩,
    ⟨"int32", 32, true, "std::int32_t"⟩, ⟨"int64", 64, true, "std::int64_t"⟩,
    ⟨"uint8", 8, false, "std::uint8_t"⟩, ⟨"uint16", 16, false, "std::uint16_t"⟩,
    ⟨"uint32", 32, false, "std::uint32_t"⟩, ⟨"uint64", 64, false, "std::uint64_t"⟩]

end SizeType

end EnumHeader

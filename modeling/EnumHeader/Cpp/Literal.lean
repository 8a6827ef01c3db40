import EnumHeader.Definition
import EnumHeader.Integer
import EnumHeader.Text.Numeral

/-!
# Integer literals

The constant expressions that stand for values and masks in generated source. A literal is data, so
that what it denotes can be said apart from its text. A decimal numeral always fits the type that
its suffix names; the least value of a type cannot be written as a negated numeral and is written as
a difference; and a value past 64 bits is put together from two halves in the storage type.
-/

namespace EnumHeader.Cpp

set_option autoImplicit false

inductive Suffix where
  | none
  | u
  | ll
  | ull
  deriving Repr, DecidableEq, Inhabited

def Suffix.text : Suffix → String
  | .none => ""
  | .u => "U"
  | .ll => "LL"
  | .ull => "ULL"

inductive Literal where
  | decimal (value : Int) (suffix : Suffix)
  | negatedLessOne (magnitude : Nat) (suffix : Suffix)
  | hexadecimal (value : Nat) (suffix : Suffix)
  /-- The upper and the lower 64 bits, joined in the named type. -/
  | halves (high low : Nat) (typeName : String)
  deriving Repr, DecidableEq, Inhabited

namespace Literal

def text : Literal → String
  | .decimal value suffix => Text.decimal value ++ suffix.text
  | .negatedLessOne magnitude suffix =>
      "(-" ++ toString magnitude ++ suffix.text ++ " - 1)"
  | .hexadecimal value suffix => "0x" ++ Text.upperHexDigits value ++ suffix.text
  | .halves high low typeName =>
      "((static_cast<" ++ typeName ++ ">(0x" ++ Text.upperHexDigits high ++
        "ULL) << 64) | static_cast<" ++ typeName ++ ">(0x" ++ Text.upperHexDigits low ++ "ULL))"

def ofHalves (bits : Nat) (typeName : String) : Literal :=
  .halves (bits / Nat.pow 2 64) (bits % Nat.pow 2 64) typeName

/-- The literal of a value, in the first of the types `int`, `unsigned`, `long long` and
`unsigned long long` that has it. -/
def ofInt (value : Int) (typeName : String) : Literal :=
  if value = -Int.pow 2 31 then .negatedLessOne (Nat.pow 2 31 - 1) .none
  else if -Int.pow 2 31 < value ∧ value < Int.pow 2 31 then .decimal value .none
  else if Int.pow 2 31 ≤ value ∧ value < Int.pow 2 32 then .decimal value .u
  else if value = -Int.pow 2 63 then .negatedLessOne (Nat.pow 2 63 - 1) .ll
  else if -Int.pow 2 63 < value ∧ value < Int.pow 2 63 then .decimal value .ll
  else if Int.pow 2 63 ≤ value ∧ value < Int.pow 2 64 then .decimal value .ull
  else ofHalves (Integer.pattern value) typeName

def ofMask (mask : Nat) (typeName : String) : Literal :=
  if mask < Nat.pow 2 32 then .hexadecimal mask .none
  else if mask < Nat.pow 2 64 then .hexadecimal mask .ull
  else ofHalves mask typeName

def underlying : String :=
  "underlying_type"

/-- The literal of an entry value: values are decimal, flags hexadecimal. -/
def ofValue (kind : Kind) (value : Int) : Literal :=
  match kind with
  | .value => ofInt value underlying
  | .flags => ofMask (Integer.pattern value) underlying

end Literal

end EnumHeader.Cpp

import EnumHeader.Proofs.Cpp.Constant.Reading
import EnumHeader.Proofs.Cpp.Reading.Value

/-!
# Constant expressions

Here every integer has a type, and there are expressions without a value: an integer token has to
fit the type that its suffix stands for, and a signed type has to represent what an operation gives.
Unsigned arithmetic wraps around, and so do casts and shifts. The literal that is chosen for a value
or a mask always has a value in this sense, and it is that one.
-/

namespace EnumHeader

set_option autoImplicit false

instance (sizeType : SizeType) (value : Int) : Decidable (sizeType.Represents value) :=
  inferInstanceAs (Decidable (if sizeType.signed = true then _ ∧ _ else _ ∧ _))

namespace Cpp

open Reading

def Suffix.type : Suffix → SizeType
  | .none => ⟨"int", 32, true, "int"⟩
  | .u => ⟨"unsigned", 32, false, "unsigned int"⟩
  | .ll => ⟨"long long", 64, true, "long long"⟩
  | .ull => ⟨"unsigned long long", 64, false, "unsigned long long"⟩

structure Constant where
  type : SizeType
  value : Int
  deriving Repr, DecidableEq, Inhabited

namespace Constant

/-- An integer token. One without a suffix may be unsigned, but not if it is decimal. -/
def ofToken (value radix : Nat) (suffix : Suffix) : Option Constant :=
  if suffix.type.Represents value then some ⟨suffix.type, value⟩
  else if suffix = .none ∧ radix ≠ 10 ∧ Suffix.u.type.Represents value then
    some ⟨Suffix.u.type, value⟩
  else none

/-- Operations are not done in types narrower than `int`. -/
def promoted (type : SizeType) : SizeType :=
  if type.bits < Suffix.none.type.bits then Suffix.none.type else type

/-- The type that both operands of an operation are converted to: the wider one, and the unsigned
one of two types of the same width. -/
def common (left right : SizeType) : SizeType :=
  let left := promoted left
  let right := promoted right
  if left.bits < right.bits ∨ left.bits = right.bits ∧ right.signed = false then right else left

/-- What an operation in the type gives. There is no overflow in a signed type. -/
def ofResult (type : SizeType) (value : Int) : Option Constant :=
  if type.signed = true ∧ ¬type.Represents value then none else some ⟨type, type.wrap value⟩

def negate (operand : Constant) : Option Constant :=
  ofResult (promoted operand.type) (-operand.value)

def cast (type : SizeType) (operand : Constant) : Constant :=
  ⟨type, type.wrap operand.value⟩

/-- The result of a shift has the type of its left operand, and the amount is less than its width.
Comparisons and conjunctions give no integer. -/
def operate : Operator → Constant → Constant → Option Constant
  | .minus, left, right =>
      let type := common left.type right.type
      ofResult type (type.wrap left.value - type.wrap right.value)
  | .bitOr, left, right =>
      let type := common left.type right.type
      some ⟨type, type.wrap (type.residue left.value ||| type.residue right.value : Nat)⟩
  | .shiftLeft, left, right =>
      let type := promoted left.type
      if 0 ≤ right.value ∧ right.value < type.bits then
        some ⟨type, type.wrap (left.value * 2 ^ right.value.toNat)⟩
      else none
  | .and, _, _ | .equal, _, _ | .lessEqual, _, _ | .greaterEqual, _, _ => none

end Constant

/-- The constant that an expression denotes where the only type it names is the given one. -/
def Reading.Expression.constant? (storage : SizeType) : Expression → Option Constant
  | .integer value radix suffix => Constant.ofToken value radix suffix
  | .negate operand => do
      let operand ← operand.constant? storage
      operand.negate
  | .binary operator left right => do
      let left ← left.constant? storage
      let right ← right.constant? storage
      Constant.operate operator left right
  | .cast typeName operand => do
      let operand ← operand.constant? storage
      if typeName = storage.typeName then some (operand.cast storage) else none
  | .text .. | .name _ | .empty _ | .construct .. | .field .. => none

def constantValue (storage : SizeType) (text : String) : Option Int := do
  let expression ← readConstantText storage.typeName text
  let constant ← expression.constant? storage
  some constant.value

def wideType (signed : Bool) (typeName : String) : SizeType :=
  ⟨typeName, 128, signed, typeName⟩

theorem suffix_represents (suffix : Suffix) (value : Int) :
    suffix.type.Represents value ↔
      match suffix with
      | .none => -2 ^ 31 ≤ value ∧ value < 2 ^ 31
      | .u => 0 ≤ value ∧ value < 2 ^ 32
      | .ll => -2 ^ 63 ≤ value ∧ value < 2 ^ 63
      | .ull => 0 ≤ value ∧ value < 2 ^ 64 := by
  cases suffix <;> simp [SizeType.Represents, Suffix.type]

theorem promoted_suffix (suffix : Suffix) : Constant.promoted suffix.type = suffix.type := by
  cases suffix <;> rfl

section Denotation

variable {storage : SizeType}

theorem constant_of_token {value : Nat} {suffix : Suffix} (fits : suffix.type.Represents value)
    (radix : Nat) :
    (Expression.integer value radix suffix).constant? storage = some ⟨suffix.type, value⟩ := by
  simp [Expression.constant?, Constant.ofToken, fits]

variable (storage) in
/-- A negative value also needs its numeral to fit. -/
theorem constant_of_decimal (value : Int) (suffix : Suffix) (fits : suffix.type.Represents value)
    (numeral : value < 0 → suffix.type.Represents (-value)) :
    (literalExpression (.decimal value suffix)).constant? storage = some ⟨suffix.type, value⟩ := by
  cases value with
  | ofNat n => exact constant_of_token fits (decimalRadix n)
  | negSucc n =>
      have token : (numberExpression (n + 1) suffix).constant? storage =
          some ⟨suffix.type, (n + 1 : Nat)⟩ :=
        constant_of_token (numeral (Int.negSucc_lt_zero n)) (decimalRadix (n + 1))
      have negative : -((n + 1 : Nat) : Int) = Int.negSucc n := rfl
      have positive : 1 ≤ suffix.type.bits := by cases suffix <;> decide
      simp only [literalExpression, Expression.constant?, token, Option.bind_eq_bind,
        Option.bind_some, Constant.negate, Constant.ofResult, promoted_suffix, negative, fits,
        not_true_eq_false, and_false, if_false, SizeType.wrap_of_represents positive fits]

/-- The least value of a signed type is one less than a negated numeral. -/
theorem constant_of_difference (suffix : Suffix) (signed : suffix.type.signed = true) :
    (literalExpression
        (.negatedLessOne (2 ^ (suffix.type.bits - 1) - 1) suffix)).constant? storage =
      some ⟨suffix.type, -2 ^ (suffix.type.bits - 1)⟩ := by
  cases suffix with
  | none | ll => rfl
  | u | ull => cases signed

/-- A hexadecimal token without a suffix may have all of 32 bits. -/
theorem constant_of_hexadecimal {value : Nat} (small : value < 2 ^ 32) :
    ∃ type, (literalExpression (.hexadecimal value .none)).constant? storage =
      some ⟨type, value⟩ := by
  have unsigned := (suffix_represents .u value).2 ⟨by omega, by omega⟩
  by_cases fits : Suffix.none.type.Represents value
  · exact ⟨_, constant_of_token fits 16⟩
  · refine ⟨Suffix.u.type, ?_⟩
    simp [literalExpression, Expression.constant?, Constant.ofToken, fits, unsigned]

variable (storage) in
theorem constant_of_half {half : Nat} (small : half < 2 ^ 64) :
    (castExpression storage.typeName half).constant? storage =
      some ⟨storage, storage.wrap half⟩ := by
  have token : Constant.ofToken half 16 .ull = some ⟨Suffix.ull.type, half⟩ :=
    if_pos ((suffix_represents .ull half).2 ⟨by omega, by omega⟩)
  simp [castExpression, Expression.constant?, token, Constant.cast]

theorem constant_of_halves (wide : 64 < storage.bits) {bits : Nat} (small : bits < 2 ^ 128) :
    (literalExpression (.ofHalves bits storage.typeName)).constant? storage =
      some ⟨storage, storage.wrap bits⟩ := by
  have high := constant_of_half storage (by omega : bits / 2 ^ 64 < 2 ^ 64)
  have low := constant_of_half storage (by omega : bits % 2 ^ 64 < 2 ^ 64)
  have count : (numberExpression 64 .none).constant? storage = some ⟨Suffix.none.type, 64⟩ := rfl
  have promoted : Constant.promoted storage = storage := if_neg (by simp [Suffix.type]; omega)
  have common : Constant.common storage storage = storage := by simp [Constant.common, promoted]
  have amount : (0 : Int) ≤ 64 ∧ (64 : Int) < storage.bits := by omega
  rw [← SizeType.wrap_of_halves wide.le bits]
  simp only [Literal.ofHalves, Nat.pow_eq, literalExpression, Expression.constant?, high, low,
    count, Constant.operate, promoted, amount, and_self, if_true, Option.bind_eq_bind,
    Option.bind_some]
  rw [common]
  rfl

section Chosen

variable (positive : 1 ≤ storage.bits)
include positive

theorem constant_of_int (narrow : storage.bits ≤ 128) {value : Int}
    (represents : storage.Represents value) :
    ∃ type, (literalExpression (.ofInt value storage.typeName)).constant? storage =
      some ⟨type, value⟩ := by
  -- The value fits the type of the suffix, and so does its numeral if it is negative.
  have decimal := constant_of_decimal storage value
  simp only [suffix_represents] at decimal
  simp only [Literal.ofInt, Integer.int_pow_eq, Nat.pow_eq]
  split_ifs with leastInt int unsigned leastLong long unsignedLong
  · exact ⟨_, leastInt ▸ constant_of_difference .none rfl⟩
  · exact ⟨_, decimal .none (by omega) (by omega)⟩
  · exact ⟨_, decimal .u (by omega) (by omega)⟩
  · exact ⟨_, leastLong ▸ constant_of_difference .ll rfl⟩
  · exact ⟨_, decimal .ll (by omega) (by omega)⟩
  · exact ⟨_, decimal .ull (by omega) (by omega)⟩
  · have wide := SizeType.wide_of_represents represents (by omega)
    have whole := constant_of_halves wide (Integer.pattern_lt value)
    rw [SizeType.wrap_of_pattern narrow, SizeType.wrap_of_represents positive represents] at whole
    exact ⟨storage, whole⟩

theorem constant_of_mask {mask : Nat} (small : mask < 2 ^ 128)
    (represents : storage.Represents mask) :
    ∃ type, (literalExpression (.ofMask mask storage.typeName)).constant? storage =
      some ⟨type, mask⟩ := by
  simp only [Literal.ofMask, Nat.pow_eq]
  split_ifs with short long
  · exact constant_of_hexadecimal short
  · exact ⟨_, constant_of_token ((suffix_represents .ull mask).2 ⟨by omega, by omega⟩) 16⟩
  · have wide := SizeType.wide_of_represents represents (by omega)
    have whole := constant_of_halves wide small
    rw [SizeType.wrap_of_represents positive represents] at whole
    exact ⟨storage, whole⟩

end Chosen

theorem constant_value_of_literal {literal : Literal} (joins : literal.JoinsIn storage.typeName)
    {value : Int}
    (denotes : ∃ type, (literalExpression literal).constant? storage = some ⟨type, value⟩) :
    constantValue storage literal.text = some value := by
  obtain ⟨type, denotes⟩ := denotes
  simp [constantValue, read_constant_text_literal joins, denotes]

end Denotation

theorem joins_in_of_int (value : Int) (typeName : String) :
    (Literal.ofInt value typeName).JoinsIn typeName := by
  unfold Literal.ofInt
  split_ifs <;> first | exact rfl | trivial

theorem joins_in_of_mask (mask : Nat) (typeName : String) :
    (Literal.ofMask mask typeName).JoinsIn typeName := by
  unfold Literal.ofMask
  split_ifs <;> first | exact rfl | trivial

/-- Every literal is a constant expression with the value or the mask that it was chosen for,
whatever the 128-bit type is called that the halves are joined in. -/
theorem literals_denote_values (typeName : String) :
    (∀ value, Integer.Fits value →
        constantValue (wideType true typeName) (Literal.ofInt value typeName).text = some value) ∧
      ∀ mask < 2 ^ 128,
        constantValue (wideType false typeName) (Literal.ofMask mask typeName).text =
          some (mask : Int) := by
  constructor
  · intro value fits
    have represents : (wideType true typeName).Represents value := by
      obtain ⟨below, above⟩ := fits
      simp only [Integer.least, Integer.greatest, Integer.int_pow_eq] at below above
      simp only [SizeType.Represents, wideType, if_true]
      omega
    exact constant_value_of_literal (joins_in_of_int value typeName)
      (constant_of_int (by decide : 1 ≤ 128) (le_refl 128) represents)
  · intro mask small
    have represents : (wideType false typeName).Represents mask := by
      simp [SizeType.Represents, wideType]
      omega
    exact constant_value_of_literal (joins_in_of_mask mask typeName)
      (constant_of_mask (by decide : 1 ≤ 128) small represents)

theorem least_value_denoted :
    Integer.Fits Integer.least ∧ (2 ^ 64 : Nat) < 2 ^ 128 ∧
      constantValue (wideType true "signed __int128")
          ("((static_cast<signed __int128>(0x8000000000000000ULL) << 64) | " ++
            "static_cast<signed __int128>(0x0ULL))") = some Integer.least ∧
      constantValue (wideType false "T")
          "((static_cast<T>(0x1ULL) << 64) | static_cast<T>(0x0ULL))" = some (2 ^ 64) := by
  have least : Integer.Fits Integer.least := by decide
  have small : (2 ^ 64 : Nat) < 2 ^ 128 := by decide
  have value := (literals_denote_values "signed __int128").1 Integer.least least
  have mask := (literals_denote_values "T").2 (2 ^ 64) small
  exact ⟨least, small, value, mask⟩

/-- The numeral of the least `int` does not fit, so it cannot be negated. -/
example : constantValue (wideType true "T") "-2147483648" = none ∧
    constantValue (wideType true "T") "(-2147483647 - 1)" = some (-2147483648) := by
  decide

end Cpp

end EnumHeader

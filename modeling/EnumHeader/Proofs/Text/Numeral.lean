import EnumHeader.Text.Numeral
import Mathlib.Order.Defs.LinearOrder

/-!
# Numerals are read back

The digits that a number is written with denote the number, in every radix up to sixteen and with
letters in either case. Signs, radix marks and separators are not treated here.
-/

namespace EnumHeader.Text

set_option autoImplicit false

def DigitsOf (radix : Nat) (character : Nat → Char) : Prop :=
  ∀ digit < radix, radixDigit? radix (character digit) = some digit

theorem decimal_digits : DigitsOf 10 Nat.digitChar := by
  unfold DigitsOf
  decide

theorem upper_hex_digits : DigitsOf 16 fun digit => (Nat.digitChar digit).toUpper := by
  unfold DigitsOf
  decide

def readOn (radix total : Nat) (digits : List Char) : Option Nat :=
  digits.foldlM (fun total c => do
    let digit ← radixDigit? radix c
    some (total * radix + digit)) total

theorem read_on_append (radix total : Nat) (left right : List Char) :
    readOn radix total (left ++ right) =
      (readOn radix total left).bind fun middle => readOn radix middle right := by
  simp [readOn, List.foldlM_append]

theorem read_on_digit {radix : Nat} {character : Nat → Char} (digits : DigitsOf radix character)
    {digit : Nat} (small : digit < radix) (total : Nat) :
    readOn radix total [character digit] = some (total * radix + digit) := by
  simp [readOn, digits digit small]

/-- The digits of a number, each written in the given way, denote the number. -/
theorem read_on_to_digits {radix : Nat} (large : 1 < radix) {write : Char → Char}
    (digits : DigitsOf radix fun digit => write (Nat.digitChar digit)) (n : Nat) :
    readOn radix 0 ((Nat.toDigits radix n).map write) = some n := by
  induction n using Nat.strongRecOn with
  | ind n ih =>
      by_cases small : n < radix
      · rw [Nat.toDigits_of_lt_base small]
        simpa using read_on_digit digits small 0
      · have smaller : n / radix < n := Nat.div_lt_self (by omega) large
        have last : n % radix < radix := Nat.mod_lt n (by omega)
        rw [Nat.toDigits_of_base_le large (by omega), List.map_append, read_on_append, ih _ smaller]
        rw [List.map_singleton, Option.bind_some, read_on_digit digits last]
        rw [Nat.div_add_mod']

theorem read_digits_to_digits {radix : Nat} (large : 1 < radix) (write : Char → Char)
    (digits : DigitsOf radix fun digit => write (Nat.digitChar digit)) (n : Nat) :
    readDigits radix ((Nat.toDigits radix n).map write) = some n := by
  have nonempty : ((Nat.toDigits radix n).map write).isEmpty = false := by
    simp [Nat.toDigits_ne_nil]
  rw [readDigits, nonempty]
  exact read_on_to_digits large digits n

theorem read_decimal_digits (n : Nat) : readDigits 10 (Nat.toDigits 10 n) = some n := by
  simpa using read_digits_to_digits (by decide) id decimal_digits n

theorem to_digits_subset {radix : Nat} (large : 1 < radix) (n : Nat) :
    ∀ c ∈ Nat.toDigits radix n, ∃ digit < radix, c = Nat.digitChar digit := by
  induction n using Nat.strongRecOn with
  | ind n ih =>
      by_cases small : n < radix
      · rw [Nat.toDigits_of_lt_base small]
        simpa using ⟨n, small, rfl⟩
      · have smaller : n / radix < n := Nat.div_lt_self (by omega) large
        have last : n % radix < radix := Nat.mod_lt n (by omega)
        rw [Nat.toDigits_of_base_le large (by omega)]
        intro c member
        cases List.mem_append.1 member with
        | inl earlier => exact ih _ smaller c earlier
        | inr final => exact ⟨n % radix, last, List.mem_singleton.1 final⟩

theorem head_of_positive (n : Nat) (positive : 0 < n) :
    ∀ c, (Nat.toDigits 10 n).head? = some c → c ≠ '0' := by
  induction n using Nat.strongRecOn with
  | ind n ih =>
      by_cases small : n < 10
      · have nonzero : ∀ digit < 10, 0 < digit → Nat.digitChar digit ≠ '0' := by decide
        rw [Nat.toDigits_of_lt_base small]
        intro c first
        obtain rfl : Nat.digitChar n = c := by simpa using first
        exact nonzero n small positive
      · have shorter := ih (n / 10) (by omega) (by omega)
        rw [Nat.toDigits_of_base_le (by decide) (by omega)]
        cases text : Nat.toDigits 10 (n / 10) with
        | nil => exact absurd text Nat.toDigits_ne_nil
        | cons first rest => simpa [text] using shorter

end EnumHeader.Text

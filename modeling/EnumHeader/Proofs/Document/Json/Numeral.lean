import EnumHeader.Proofs.Document.Json.Grammar
import EnumHeader.Proofs.Text.Numeral

/-!
# Reading integers

An integer of 64 bits is read back from its decimal digits, whatever comes after it that ends a
value.
-/

namespace EnumHeader.Document.Json

set_option autoImplicit false

/-- What can come after a value: nothing, space, or the sign that ends it. -/
def Ends (rest : List Char) : Prop :=
  ∀ c, rest.head? = some c → isSpace c = true ∨ c ∈ [',', ']', '\x7d']

section Ends

variable {rest : List Char}

theorem Ends.other (ends : Ends rest) {c : Char} {left : List Char} (split : rest = c :: left) :
    c.isDigit = false ∧ c ∉ ['.', 'e', 'E'] := by
  have last := ends c (by simp [split])
  simp only [isSpace, List.mem_cons, List.not_mem_nil, or_false, Bool.or_eq_true,
    beq_iff_eq] at last
  rcases last with (((rfl | rfl) | rfl) | rfl) | rfl | rfl | rfl <;> decide

theorem digits_append (ends : Ends rest) {text : List Char}
    (decimal : ∀ c ∈ text, c.isDigit = true) : digits (text ++ rest) = (text, rest) := by
  have stop : rest.takeWhile Char.isDigit = [] ∧ rest.dropWhile Char.isDigit = rest := by
    cases split : rest with
    | nil => exact ⟨rfl, rfl⟩
    | cons c left => simp [(ends.other split).1]
  unfold digits
  rw [List.takeWhile_append_of_pos decimal, List.dropWhile_append_of_pos decimal, stop.1, stop.2,
    List.append_nil]

theorem digits_are_digits (n : Nat) : ∀ c ∈ Nat.toDigits 10 n, c.isDigit = true := by
  have each : ∀ digit < 10, (Nat.digitChar digit).isDigit = true := by decide
  intro c member
  obtain ⟨digit, small, rfl⟩ := Text.to_digits_subset (by decide) n c member
  exact each digit small

theorem whole_of_digits (ends : Ends rest) (n : Nat) :
    wholePart (Nat.toDigits 10 n ++ rest) = some (Nat.toDigits 10 n, rest) := by
  by_cases zero : n = 0
  · subst zero
    rfl
  · obtain ⟨first, more, text⟩ := List.exists_cons_of_ne_nil (Nat.toDigits_ne_nil (b := 10) (n := n))
    have nonzero : first ≠ '0' := Text.head_of_positive n (by omega) first (by simp [text])
    have found := digits_append ends (digits_are_digits n)
    rw [text] at found ⊢
    rw [List.cons_append, wholePart, someDigits, ← List.cons_append, found]
    · rfl
    · rintro _ same
      exact nonzero (List.cons.inj same).1

theorem fraction_of_end (ends : Ends rest) : fraction rest = some (none, rest) := by
  unfold fraction
  split
  next => exact absurd (ends.other rfl).2 (by simp)
  next => rfl

theorem exponent_of_end (ends : Ends rest) : exponentPart rest = some (none, rest) := by
  unfold exponentPart
  split
  next => exact absurd (ends.other rfl).2 (by simp)
  next => exact absurd (ends.other rfl).2 (by simp)
  next => rfl

theorem number_of_digits (ends : Ends rest) (negative : Bool) {n : Nat} {value : Int}
    (signed : value = if negative then -(n : Int) else n) (fits : IntegerFits value)
    (nonzero : negative = true → n ≠ 0) :
    unsignedNumber negative (Nat.toDigits 10 n ++ rest) = some (.integer value, rest) := by
  have size : (number (Nat.toDigits 10 n) : Int) = n := by
    rw [number, Text.read_decimal_digits]
    rfl
  have own : numberNode negative (Nat.toDigits 10 n) none none = .integer value := by
    unfold numberNode
    simp only [size, ← signed]
    apply if_pos
    cases negative with
    | false => simpa using fits
    | true =>
        have other : value ≠ 0 := by
          have := nonzero rfl
          simp at signed
          omega
        simpa [other] using fits
  unfold unsignedNumber
  simp [whole_of_digits ends, fraction_of_end ends, exponent_of_end ends, own]

end Ends

end EnumHeader.Document.Json

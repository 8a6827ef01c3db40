import EnumHeader.Proofs.Document.Json.Grammar

/-!
# Reading quoted texts

However the characters of a text are written, by themselves or by escapes, reading them up to the
closing quote gives the text back.
-/

namespace EnumHeader.Document.Json

set_option autoImplicit false

attribute [local simp] units joinUnits

section Units

variable {rest : List Char}

theorem units_of_plain {c : Char} (visible : 0x20 ≤ c.toNat) (notQuote : c ≠ '"')
    (notBackslash : c ≠ '\\') :
    units (c :: rest) = (units rest).map fun (later, left) => (c.toNat :: later, left) := by
  rw [units]
  · rw [if_neg (by omega)]
    cases units rest <;> rfl
  all_goals simp_all

theorem units_of_short {letter c : Char} (stands : shortEscape? letter = some c) :
    units ('\\' :: letter :: rest) =
      (units rest).map fun (later, left) => (c.toNat :: later, left) := by
  rw [units]
  · rw [stands]
    cases units rest <;> rfl
  · rintro a b c d more rfl -
    cases stands

theorem units_of_digits {a b c d : Char} {unit : Nat} (stands : hexNumber? [a, b, c, d] = some unit) :
    units ('\\' :: 'u' :: a :: b :: c :: d :: rest) =
      (units rest).map fun (later, left) => (unit :: later, left) := by
  cases later : units rest <;> simp [stands, later]

end Units

section Halves

theorem whole_of_char (c : Char) :
    isHighHalf c.toNat = false ∧ isLowHalf c.toNat = false := by
  have valid : c.toNat.isValidChar := c.valid
  unfold Nat.isValidChar at valid
  simp only [isHighHalf, isLowHalf, Bool.and_eq_false_iff, decide_eq_false_iff_not]
  omega

theorem join_char (c : Char) (later : List Nat) :
    joinUnits (c.toNat :: later) = (joinUnits later).map (c :: ·) := by
  obtain ⟨notHigh, notLow⟩ := whole_of_char c
  cases later with
  | nil => simp [notHigh, notLow]
  | cons next others =>
      rw [joinUnits]
      simp only [notHigh, notLow, Bool.false_and, Bool.or_false, Bool.false_eq_true, if_false]
      rw [Char.ofNat_toNat]
      cases joinUnits (next :: others) <;> rfl

theorem join_pair {high low : Nat} {c : Char} (isHigh : isHighHalf high = true)
    (isLow : isLowHalf low = true)
    (stands : c.toNat = 0x10000 + (high - 0xD800) * 0x400 + (low - 0xDC00)) (later : List Nat) :
    joinUnits (high :: low :: later) = (joinUnits later).map (c :: ·) := by
  rw [joinUnits, isHigh, isLow, ← stands, Char.ofNat_toNat]
  cases joinUnits later <;> rfl

end Halves

theorem units_of_char {c : Char} {written : List Char} (writes : WritesChar c written) :
    ∃ own, (∀ rest, units (written ++ rest) =
        (units rest).map fun (later, left) => (own ++ later, left)) ∧
      ∀ later, joinUnits (own ++ later) = (joinUnits later).map (c :: ·) := by
  cases writes with
  | plain visible notQuote notBackslash =>
      exact ⟨[c.toNat], fun rest => units_of_plain visible notQuote notBackslash, join_char c⟩
  | short stands => exact ⟨[c.toNat], fun rest => units_of_short stands, join_char c⟩
  | unit stands => exact ⟨[c.toNat], fun rest => units_of_digits stands, join_char c⟩
  | @pair _ _ _ _ _ _ _ _ _ high low first second isHigh isLow stands =>
      refine ⟨[high, low], fun rest => ?_, join_pair isHigh isLow stands⟩
      refine (units_of_digits first).trans ?_
      refine (congrArg (Option.map _) (units_of_digits second)).trans ?_
      rw [Option.map_map]
      rfl

theorem units_of_chars {chars written : List Char} (writes : WritesChars chars written)
    (rest : List Char) :
    ∃ found, units (written ++ '"' :: rest) = some (found, rest) ∧
      joinUnits found = some chars := by
  induction writes with
  | nil => exact ⟨[], rfl, rfl⟩
  | cons first _ ih =>
      obtain ⟨own, read, joined⟩ := units_of_char first
      obtain ⟨found, later, others⟩ := ih
      refine ⟨own ++ found, ?_, ?_⟩
      · rw [List.append_assoc, read, later]
        rfl
      · rw [joined, others]
        rfl

theorem wording_of_chars {text : String} {written : List Char}
    (writes : WritesChars text.toList written) (rest : List Char) :
    wording (written ++ '"' :: rest) = some (some text, rest) := by
  obtain ⟨found, read, joined⟩ := units_of_chars writes rest
  simp [wording, read, joined]

end EnumHeader.Document.Json

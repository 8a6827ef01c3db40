import EnumHeader.Proofs.Cpp.Reading.Evaluation
import EnumHeader.Proofs.Text.Numeral

/-!
# Words and numbers

A word of the source is one token whatever separate text comes after it, and so is a number. The
numerals of literals, decimal and hexadecimal with any suffix, are read back as the number that they
were written for.
-/

namespace EnumHeader.Cpp.Reading

set_option autoImplicit false

structure IsWord (name : String) : Prop where
  nonempty : name.toList ≠ []
  parts : ∀ c ∈ name.toList, Text.isNamePart c = true
  start : ∀ c, name.toList.head? = some c → c.isDigit = false

instance (name : String) : Decidable (IsWord name) :=
  decidable_of_iff
    (name.toList ≠ [] ∧ name.toList.all Text.isNamePart = true ∧
      name.toList.head?.any Char.isDigit = false)
    ⟨fun ⟨nonempty, parts, start⟩ =>
        ⟨nonempty, List.all_eq_true.1 parts, fun c first => by simpa [first] using start⟩,
      fun word => ⟨word.nonempty, List.all_eq_true.2 word.parts, by
        cases first : name.toList.head? with
        | none => rfl
        | some c => exact word.start c first⟩⟩

theorem scan_name {name : String} (word : IsWord name) (rest : List Char)
    (separate : Separate rest) :
    scan .nothing (name.toList ++ rest) = .word name :: scan .nothing rest := by
  rw [scan_word word.nonempty word.parts rest separate]
  have isWord : Token.ofWord name.toList = .word name := by
    have start := word.start
    unfold Token.ofWord
    cases first : name.toList.head? with
    | none => simp
    | some c =>
        rw [Option.map_some, Option.getD_some, start c first, if_neg (by simp),
          String.ofList_toList]
  rw [isWord]

structure IsNumber (text : List Char) : Prop where
  start : ∃ first rest, text = first :: rest ∧ first.isDigit = true
  parts : ∀ c ∈ text, Text.isNamePart c = true

theorem IsNumber.nonempty {text : List Char} (number : IsNumber text) : text ≠ [] := by
  obtain ⟨first, rest, rfl, -⟩ := number.start
  simp

theorem scan_number {text : List Char} (number : IsNumber text) (rest : List Char)
    (separate : Separate rest) :
    scan .nothing (text ++ rest) = .number text :: scan .nothing rest := by
  obtain ⟨first, more, same, digit⟩ := number.start
  rw [scan_word (by simp [same]) number.parts rest separate]
  have isNumber : Token.ofWord text = .number text := by
    simp [Token.ofWord, same, digit]
  rw [isNumber]

def decimalText (n : Nat) (suffix : Suffix) : List Char :=
  Nat.toDigits 10 n ++ suffix.text.toList

def upperHexText (n : Nat) (suffix : Suffix) : List Char :=
  '0' :: 'x' :: ((Nat.toDigits 16 n).map Char.toUpper ++ suffix.text.toList)

theorem suffix_parts (suffix : Suffix) : ∀ c ∈ suffix.text.toList, Text.isNamePart c = true := by
  -- Tested on the list, because the quantifier alone would be decided over all characters.
  have all : suffix.text.toList.all Text.isNamePart = true := by cases suffix <;> decide
  exact List.all_eq_true.1 all

theorem decimal_is_number (n : Nat) (suffix : Suffix) : IsNumber (decimalText n suffix) := by
  have digits : ∀ c ∈ Nat.toDigits 10 n, c.isDigit = true :=
    fun c member => Nat.isDigit_of_mem_toDigits (by decide) (by decide) member
  constructor
  · cases text : Nat.toDigits 10 n with
    | nil => exact absurd text Nat.toDigits_ne_nil
    | cons first rest =>
        exact ⟨first, rest ++ suffix.text.toList, by simp [decimalText, text],
          digits first (by simp [text])⟩
  · intro c member
    cases List.mem_append.1 member with
    | inl digit =>
        have isDigit := digits c digit
        simp [Text.isNamePart, Char.isAlphanum, isDigit]
    | inr last => exact suffix_parts suffix c last

theorem hex_is_number (n : Nat) (suffix : Suffix) : IsNumber (upperHexText n suffix) := by
  have hex : ∀ digit < 16, Text.isNamePart (Nat.digitChar digit).toUpper = true := by decide
  constructor
  · exact ⟨'0', _, rfl, rfl⟩
  · intro c member
    rcases List.mem_cons.1 member with rfl | member
    · rfl
    rcases List.mem_cons.1 member with rfl | member
    · rfl
    cases List.mem_append.1 member with
    | inl digit =>
        obtain ⟨lower, inside, rfl⟩ := List.mem_map.1 digit
        obtain ⟨value, small, rfl⟩ := Text.to_digits_subset (by decide) n lower inside
        exact hex value small
    | inr last => exact suffix_parts suffix c last

theorem suffix_of_text (suffix : Suffix) : suffixOf? suffix.text.toList = some suffix := by
  cases suffix <;> decide

theorem read_numeral_digits {radix : Nat} {digits : List Char} (suffix : Suffix) {value : Nat}
    (only : ∀ c ∈ digits, (Text.radixDigit? radix c).isSome = true)
    (ends : suffix.text.toList.head?.any (fun c => (Text.radixDigit? radix c).isSome) = false)
    (reads : Text.readDigits radix digits = some value) :
    readNumeral radix (digits ++ suffix.text.toList) = some (.integer value radix suffix) := by
  have stop : suffix.text.toList.takeWhile (fun c => (Text.radixDigit? radix c).isSome) = [] ∧
      suffix.text.toList.dropWhile (fun c => (Text.radixDigit? radix c).isSome) =
        suffix.text.toList := by
    cases text : suffix.text.toList with
    | nil => simp
    | cons first rest =>
        have last : (Text.radixDigit? radix first).isSome = false := by simpa [text] using ends
        simp [last]
  have taken : (digits ++ suffix.text.toList).takeWhile
      (fun c => (Text.radixDigit? radix c).isSome) = digits := by
    rw [List.takeWhile_append_of_pos only, stop.1, List.append_nil]
  have left : (digits ++ suffix.text.toList).dropWhile
      (fun c => (Text.radixDigit? radix c).isSome) = suffix.text.toList := by
    rw [List.dropWhile_append_of_pos only, stop.2]
  simp [readNumeral, taken, left, reads, suffix_of_text]

/-- Only zero is written with a leading zero, so its numeral counts as octal. -/
def decimalRadix (n : Nat) : Nat :=
  if n = 0 then 8 else 10

theorem read_decimal (n : Nat) (suffix : Suffix) :
    readNumber (decimalText n suffix) = some (.integer n (decimalRadix n) suffix) := by
  by_cases zero : n = 0
  · subst n
    cases suffix <;> decide
  · have digits : ∀ c ∈ Nat.toDigits 10 n, (Text.radixDigit? 10 c).isSome = true := by
      intro c member
      obtain ⟨digit, small, rfl⟩ := Text.to_digits_subset (by decide) n c member
      simp [Text.decimal_digits digit small]
    have reads := Text.read_decimal_digits n
    have numeral := read_numeral_digits suffix digits (by cases suffix <;> decide) reads
    have start := Text.head_of_positive n (by omega)
    cases text : Nat.toDigits 10 n with
    | nil => exact absurd text Nat.toDigits_ne_nil
    | cons first rest =>
        have nonzero : first ≠ '0' := start first (by simp [text])
        rw [text] at numeral
        simp only [readNumber, decimalText, decimalRadix, zero, text, numeral]
        simp [nonzero]

theorem read_hex (n : Nat) (suffix : Suffix) :
    readNumber (upperHexText n suffix) = some (.integer n 16 suffix) := by
  have digits : ∀ c ∈ (Nat.toDigits 16 n).map Char.toUpper,
      (Text.radixDigit? 16 c).isSome = true := by
    intro c member
    obtain ⟨lower, inside, rfl⟩ := List.mem_map.1 member
    obtain ⟨digit, small, rfl⟩ := Text.to_digits_subset (by decide) n lower inside
    simp [Text.upper_hex_digits digit small]
  have reads : Text.readDigits 16 ((Nat.toDigits 16 n).map Char.toUpper) = some n :=
    Text.read_digits_to_digits (by decide) Char.toUpper Text.upper_hex_digits n
  have numeral := read_numeral_digits suffix digits (by cases suffix <;> decide) reads
  simpa [readNumber, upperHexText] using numeral

theorem decimal_of_nat (n : Nat) : (toString n).toList = decimalText n .none := by
  simp [decimalText, Suffix.text]

end EnumHeader.Cpp.Reading

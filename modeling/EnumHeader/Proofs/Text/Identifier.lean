import EnumHeader.Text.Case
import EnumHeader.Text.Identifier

/-!
# Names and their characters

What an identifier is, letter by letter, and that the tests for one decide it. The characters of
names are ASCII, so that each has one capital, which can stand where the character stood. A text that
starts like a name is one when only parts of names follow.
-/

namespace EnumHeader.Text

set_option autoImplicit false

section Spelling

def IsNameStart (c : Char) : Prop :=
  'A' ≤ c ∧ c ≤ 'Z' ∨ 'a' ≤ c ∧ c ≤ 'z' ∨ c = '_'

def IsNamePart (c : Char) : Prop :=
  IsNameStart c ∨ '0' ≤ c ∧ c ≤ '9'

def IsNameShaped (text : List Char) : Prop :=
  ∃ first rest, text = first :: rest ∧ IsNameStart first ∧ ∀ c ∈ rest, IsNamePart c

/-- The name can be given to something in a C++ source. -/
structure IsIdentifier (name : String) : Prop where
  shaped : IsNameShaped name.toList
  free : name ∉ keywords

theorem is_name_start_iff (c : Char) : isNameStart c = true ↔ IsNameStart c := by
  change ((decide (c.val ≥ 'A'.val ∧ c.val ≤ 'Z'.val) || (c.val ≥ 'a'.val && c.val ≤ 'z'.val)) ||
    c == '_') = true ↔ _
  simp only [Bool.or_eq_true, Bool.and_eq_true, decide_eq_true_eq, beq_iff_eq, or_assoc]
  rfl

theorem is_name_part_iff (c : Char) : isNamePart c = true ↔ IsNamePart c := by
  rw [IsNamePart, ← is_name_start_iff]
  change ((c.isAlpha || (c.val ≥ '0'.val && c.val ≤ '9'.val)) || c == '_') = true ↔
    (c.isAlpha || c == '_') = true ∨ _
  simp only [Bool.or_eq_true, Bool.and_eq_true, decide_eq_true_eq, beq_iff_eq, or_right_comm]
  rfl

theorem is_name_shaped_iff (text : List Char) : isNameShaped text = true ↔ IsNameShaped text := by
  cases text with
  | nil => simp [isNameShaped, IsNameShaped]
  | cons first rest =>
      simp only [isNameShaped, Bool.and_eq_true, List.all_eq_true, is_name_start_iff,
        is_name_part_iff]
      constructor
      · rintro ⟨start, parts⟩
        exact ⟨first, rest, rfl, start, parts⟩
      · rintro ⟨_, _, split, start, parts⟩
        obtain ⟨rfl, rfl⟩ := List.cons.inj split
        exact ⟨start, parts⟩

theorem is_identifier_iff (name : String) : isIdentifier name = true ↔ IsIdentifier name := by
  have unlisted : (!keywords.contains name) = true ↔ name ∉ keywords := by simp
  rw [isIdentifier, Bool.and_eq_true, is_name_shaped_iff, unlisted]
  exact ⟨fun ⟨shaped, free⟩ => ⟨shaped, free⟩, fun ⟨shaped, free⟩ => ⟨shaped, free⟩⟩

end Spelling

section Characters

variable {c d : Char}

theorem part_of_name_start (start : isNameStart c = true) : isNamePart c = true := by
  simp only [isNameStart, isNamePart, Char.isAlphanum, Bool.or_eq_true] at start ⊢
  cases start with
  | inl letter => exact .inl (.inl letter)
  | inr underscore => exact .inr underscore

theorem ascii_of_name_part (part : isNamePart c = true) : c.toNat < 128 := by
  change ((decide (c.val ≥ 'A'.val ∧ c.val ≤ 'Z'.val) || (c.val ≥ 'a'.val && c.val ≤ 'z'.val)) ||
    (c.val ≥ '0'.val && c.val ≤ '9'.val) || c == '_') = true at part
  simp only [Bool.or_eq_true, Bool.and_eq_true, decide_eq_true_eq, ge_iff_le,
    UInt32.le_iff_toNat_le, beq_iff_eq] at part
  rcases part with ((upper | lower) | digit) | rfl
  · exact Nat.lt_of_le_of_lt upper.2 (by decide)
  · exact Nat.lt_of_le_of_lt lower.2 (by decide)
  · exact Nat.lt_of_le_of_lt digit.2 (by decide)
  · decide

/-- What holds of each ASCII part of names, code by code, holds of every part. -/
theorem of_each_name_part {motive : Char → Prop}
    (each : ∀ code < 128, isNamePart (Char.ofNat code) = true → motive (Char.ofNat code))
    (part : isNamePart c = true) : motive c := by
  have same : Char.ofNat c.toNat = c := Char.ofNat_toNat c
  have small := ascii_of_name_part part
  rw [← same] at part ⊢
  exact each c.toNat small part

theorem digit_of_name_start (start : isNameStart c = true) : c.isDigit = false := by
  apply of_each_name_part (motive := fun c => isNameStart c = true → c.isDigit = false)
  · decide
  · exact part_of_name_start start
  · exact start

theorem capital_of_name_part (part : isNamePart c = true) : upperChar c = [c.toUpper] :=
  upper_char_of_ascii (ascii_of_name_part part)

theorem part_of_capital (part : isNamePart c = true) : isNamePart c.toUpper = true := by
  apply of_each_name_part (motive := fun c => isNamePart c.toUpper = true)
  · decide
  · exact part

theorem start_of_capital (start : isNameStart c = true) : isNameStart c.toUpper = true := by
  apply of_each_name_part
    (motive := fun c => isNameStart c = true → isNameStart c.toUpper = true)
  · decide
  · exact part_of_name_start start
  · exact start

end Characters

theorem mem_intercalate {separator : String} {texts : List String} {c : Char}
    (member : c ∈ (separator.intercalate texts).toList) :
    c ∈ separator.toList ∨ ∃ text ∈ texts, c ∈ text.toList := by
  induction texts with
  | nil => simp at member
  | cons text rest ih =>
      by_cases empty : rest = []
      · simp only [empty, String.intercalate_singleton] at member
        exact .inr ⟨text, List.mem_cons_self, member⟩
      · simp only [String.intercalate_cons_of_ne_nil empty, String.toList_append,
          List.mem_append] at member
        rcases member with (inside | inside) | inside
        · exact .inr ⟨text, List.mem_cons_self, inside⟩
        · exact .inl inside
        · rcases ih inside with between | ⟨other, listed, within⟩
          · exact .inl between
          · exact .inr ⟨other, List.mem_cons_of_mem _ listed, within⟩

section Texts

variable {text rest : List Char}

theorem parts_of_upper (parts : ∀ c ∈ text, isNamePart c = true) :
    ∀ c ∈ upper text, isNamePart c = true := by
  intro c member
  obtain ⟨original, inside, capital⟩ := List.mem_flatMap.1 member
  rw [capital_of_name_part (parts original inside), List.mem_singleton] at capital
  rw [capital]
  exact part_of_capital (parts original inside)

theorem parts_of_name (shaped : isNameShaped text = true) :
    ∀ c ∈ text, isNamePart c = true := by
  cases text with
  | nil => exact nofun
  | cons first others =>
      simp only [isNameShaped, Bool.and_eq_true, List.all_eq_true] at shaped
      simp only [List.forall_mem_cons]
      exact ⟨part_of_name_start shaped.1, shaped.2⟩

theorem is_name_shaped_append (shaped : isNameShaped text = true)
    (parts : ∀ c ∈ rest, isNamePart c = true) : isNameShaped (text ++ rest) = true := by
  cases text with
  | nil => simp [isNameShaped] at shaped
  | cons first others =>
      simp only [isNameShaped, Bool.and_eq_true, List.all_eq_true] at shaped
      simp only [List.cons_append, isNameShaped, Bool.and_eq_true, List.all_eq_true,
        List.forall_mem_append]
      exact ⟨shaped.1, shaped.2, parts⟩

theorem is_name_shaped_upper (shaped : isNameShaped text = true) :
    isNameShaped (upper text) = true := by
  cases text with
  | nil => simp [isNameShaped] at shaped
  | cons first others =>
      simp only [isNameShaped, Bool.and_eq_true, List.all_eq_true] at shaped
      have capital : upper (first :: others) = first.toUpper :: upper others := by
        simp [upper, capital_of_name_part (part_of_name_start shaped.1)]
      rw [capital]
      simp only [isNameShaped, Bool.and_eq_true, List.all_eq_true]
      exact ⟨start_of_capital shaped.1, parts_of_upper shaped.2⟩

end Texts

section Names

variable {name : String}

theorem name_shaped_of_identifier (identifier : isIdentifier name = true) :
    isNameShaped name.toList = true := by
  simp only [isIdentifier, Bool.and_eq_true] at identifier
  exact identifier.1

theorem parts_of_identifier (identifier : isIdentifier name = true) :
    ∀ c ∈ name.toList, isNamePart c = true :=
  parts_of_name (name_shaped_of_identifier identifier)

theorem identifier_of_capital (shaped : isNameShaped name.toList = true) {c : Char}
    (member : c ∈ name.toList) (capital : c.isUpper = true) : isIdentifier name = true := by
  have small : ∀ keyword ∈ keywords, keyword.toList.all (fun c => !c.isUpper) = true := by decide
  have free : name ∉ keywords := by
    intro listed
    have lower := List.all_eq_true.1 (small name listed) c member
    simp [capital] at lower
  simp [isIdentifier, shaped, free]

end Names

section Joined

variable {separator : String} {texts : List String}

theorem parts_of_intercalate (between : ∀ c ∈ separator.toList, isNamePart c = true)
    (each : ∀ text ∈ texts, ∀ c ∈ text.toList, isNamePart c = true) :
    ∀ c ∈ (separator.intercalate texts).toList, isNamePart c = true := by
  intro c member
  rcases mem_intercalate member with inside | ⟨text, listed, inside⟩
  · exact between c inside
  · exact each text listed c inside

theorem is_name_shaped_intercalate {first : String}
    (between : ∀ c ∈ separator.toList, isNamePart c = true)
    (shaped : isNameShaped first.toList = true)
    (each : ∀ text ∈ texts, ∀ c ∈ text.toList, isNamePart c = true) :
    isNameShaped (separator.intercalate (first :: texts)).toList = true := by
  cases texts with
  | nil => simpa using shaped
  | cons next rest =>
      have later := parts_of_intercalate between each
      rw [String.intercalate_cons_cons, String.append_assoc, String.toList_append]
      apply is_name_shaped_append shaped
      simpa only [String.toList_append, List.forall_mem_append] using ⟨between, later⟩

end Joined

end EnumHeader.Text

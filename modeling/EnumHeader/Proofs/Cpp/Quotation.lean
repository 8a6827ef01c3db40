import EnumHeader.Proofs.Cpp.Reading.Text
import Mathlib.Tactic.SplitIfs

/-!
# Between the quotes of a literal

A text is recovered from what stands between the quotes of its literal, so no two texts share a
literal. What stands there is free of controls, and a quote or a question mark occurs in it only
behind a backslash. That a compiler takes the whole literal for one token is stated elsewhere.
-/

namespace EnumHeader.Cpp

set_option autoImplicit false

open Reading (unescape unescape_escaped)

def IsControl (c : Char) : Prop :=
  c.toNat < 0x20 ∨ c.toNat = 0x7F

instance (c : Char) : Decidable (IsControl c) :=
  inferInstanceAs (Decidable (_ ∨ _))

/-- The characters that no backslash stands in front of. A backslash that escapes the next character
is left out together with it. -/
def unescapedChars : List Char → List Char
  | [] => []
  | [c] => [c]
  | c :: next :: rest =>
      if c = '\\' then unescapedChars rest else c :: unescapedChars (next :: rest)

structure Quotes (text body : List Char) : Prop where
  printable : ∀ c ∈ body, ¬ IsControl c
  escaped : ∀ c ∈ unescapedChars body, c ≠ '"' ∧ c ≠ '?'
  decoded : unescape .none body = some text

section Escapes

theorem unescaped_chars_of_escape (c : Char) (rest : List Char) :
    unescapedChars ('\\' :: c :: rest) = unescapedChars rest := by
  simp [unescapedChars]

theorem unescaped_chars_of_plain {c : Char} (plain : c ≠ '\\') (rest : List Char) :
    unescapedChars (c :: rest) = c :: unescapedChars rest := by
  cases rest with
  | nil => rfl
  | cons next rest => simp [unescapedChars, plain]

theorem octal_digit_is_plain {digit : Nat} (small : digit < 8) :
    ¬ IsControl (Nat.digitChar digit) ∧ Nat.digitChar digit ≠ '\\' ∧
      Nat.digitChar digit ≠ '"' ∧ Nat.digitChar digit ≠ '?' := by
  have all : ∀ digit < 8, ¬ IsControl (Nat.digitChar digit) ∧ Nat.digitChar digit ≠ '\\' ∧
      Nat.digitChar digit ≠ '"' ∧ Nat.digitChar digit ≠ '?' := by decide
  exact all digit small

theorem octal_digits_are_plain (n : Nat) :
    ∀ c ∈ Text.threeOctalDigits n, ¬ IsControl c ∧ c ≠ '\\' ∧ c ≠ '"' ∧ c ≠ '?' := by
  have digit (m : Nat) := octal_digit_is_plain (Nat.mod_lt m (by decide : 0 < 8))
  simp only [Text.threeOctalDigits, List.forall_mem_cons, List.not_mem_nil, false_implies,
    implies_true, and_true]
  exact ⟨digit _, digit _, digit _⟩

theorem printable_of_all {body : List Char}
    (all : (body.all fun c => decide (¬ IsControl c)) = true) : ∀ c ∈ body, ¬ IsControl c := by
  simpa using all

theorem escaped_char_printable (c : Char) : ∀ part ∈ escapedChar c, ¬ IsControl part := by
  unfold escapedChar
  split
  iterate 6 exact printable_of_all (by decide)
  next =>
    split_ifs with control
    · exact List.forall_mem_cons.2 ⟨by decide, fun digit member =>
        (octal_digits_are_plain c.toNat digit member).1⟩
    · exact List.forall_mem_singleton.2 control

theorem unescaped_chars_of_escaped_char (c : Char) {rest : List Char}
    (clean : ∀ part ∈ unescapedChars rest, part ≠ '"' ∧ part ≠ '?') :
    ∀ part ∈ unescapedChars (escapedChar c ++ rest), part ≠ '"' ∧ part ≠ '?' := by
  unfold escapedChar
  split
  iterate 6 exact (unescaped_chars_of_escape _ rest).symm ▸ clean
  next unescaped unquoted _ _ _ unasked =>
    split_ifs with control
    · -- the first digit belongs to the escape, the other two stand by themselves
      obtain ⟨-, ⟨-, second, secondClean⟩, ⟨-, third, thirdClean⟩, -⟩ := by
        simpa only [Text.threeOctalDigits, List.forall_mem_cons] using
          octal_digits_are_plain c.toNat
      simp only [Text.threeOctalDigits, List.cons_append, List.nil_append,
        unescaped_chars_of_escape, unescaped_chars_of_plain second,
        unescaped_chars_of_plain third, List.forall_mem_cons]
      exact ⟨secondClean, thirdClean, clean⟩
    · rw [List.singleton_append, unescaped_chars_of_plain unescaped, List.forall_mem_cons]
      exact ⟨⟨unquoted, unasked⟩, clean⟩

end Escapes

theorem quotes_escaped (text : List Char) : Quotes text (escaped text) where
  printable := by
    intro part member
    obtain ⟨c, -, member⟩ := List.mem_flatMap.1 member
    exact escaped_char_printable c part member
  escaped := by
    induction text with
    | nil => nofun
    | cons c text ih => exact unescaped_chars_of_escaped_char c ih
  decoded := unescape_escaped text

theorem string_literal_parts (stringType : StringType) (text : String) :
    (stringLiteral stringType text).toList =
      (if stringType = .wide then ['L'] else []) ++ '"' :: (escaped text.toList ++ ['"']) := by
  cases stringType <;> simp [stringLiteral, literalMark]

theorem string_literal_injective (stringType : StringType) :
    Function.Injective (stringLiteral stringType) := by
  intro left right same
  have bodies := congrArg String.toList same
  rw [string_literal_parts, string_literal_parts, List.append_cancel_left_eq, List.cons.injEq,
    List.append_cancel_right_eq] at bodies
  have texts : some left.toList = some right.toList := by
    rw [← unescape_escaped left.toList, bodies.2, unescape_escaped]
  exact String.toList_injective (Option.some.inj texts)

/-- A literal is a prefix and a quoted body that says the text, and it says no other text. -/
theorem string_literals_round_trip (stringType : StringType) :
    (∀ text : String, ∃ body, Quotes text.toList body ∧
      (stringLiteral stringType text).toList =
        (if stringType = .wide then ['L'] else []) ++ '"' :: (body ++ ['"'])) ∧
      Function.Injective (stringLiteral stringType) :=
  ⟨fun text => ⟨escaped text.toList, quotes_escaped text.toList,
    string_literal_parts stringType text⟩, string_literal_injective stringType⟩

/-- A digit after a control does not run into its escape. -/
example : stringLiteral .wide "\x012?" = "L\"\\0012\\?\"" := by
  decide

end EnumHeader.Cpp

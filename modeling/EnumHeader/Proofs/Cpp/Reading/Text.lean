import EnumHeader.Proofs.Cpp.Reading.Chain
import EnumHeader.Proofs.Cpp.Reading.Evaluation

/-!
# String literals in front of any text

A text that is written as a string literal is one token, whatever comes after it, and undoing the
escapes between its quotes gives the text back. This holds for every text, controls and quotes
included.
-/

namespace EnumHeader.Cpp.Reading

set_option autoImplicit false

inductive Written (c : Char) : List Char → Prop where
  | simple (mark : Char) (escape : simpleEscape? mark = some c) (sameLine : mark ≠ '\n') :
      Written c ['\\', mark]
  | octal (small : c.toNat < 512) : Written c ('\\' :: Text.threeOctalDigits c.toNat)
  | plain (unquoted : c ≠ '"') (unescaped : c ≠ '\\') (sameLine : c ≠ '\n') : Written c [c]

theorem written_escaped_char (c : Char) : Written c (escapedChar c) := by
  unfold escapedChar
  split
  next => exact .simple '\\' rfl (by decide)
  next => exact .simple '"' rfl (by decide)
  next => exact .simple 'n' rfl (by decide)
  next => exact .simple 'r' rfl (by decide)
  next => exact .simple 't' rfl (by decide)
  next => exact .simple '?' rfl (by decide)
  next unescaped unquoted sameLine _ _ _ =>
    split
    next control => exact .octal (by omega)
    next => exact .plain unquoted unescaped sameLine

theorem octal_digit_properties {digit : Nat} (small : digit < 8) :
    Text.radixDigit? 8 (Nat.digitChar digit) = some digit ∧
      simpleEscape? (Nat.digitChar digit) = none ∧ Nat.digitChar digit ≠ '\n' ∧
      Nat.digitChar digit ≠ '"' ∧ Nat.digitChar digit ≠ '\\' := by
  have all : ∀ digit < 8, Text.radixDigit? 8 (Nat.digitChar digit) = some digit ∧
      simpleEscape? (Nat.digitChar digit) = none ∧ Nat.digitChar digit ≠ '\n' ∧
      Nat.digitChar digit ≠ '"' ∧ Nat.digitChar digit ≠ '\\' := by decide
  exact all digit small

theorem scan_written {c : Char} {text : List Char} (written : Written c text)
    (stringType : StringType) (body rest : List Char) :
    scan (.quote stringType body false) (text ++ rest) =
      scan (.quote stringType (body ++ text) false) rest := by
  cases written with
  | simple mark escape sameLine => simp [scan, Pending.take, sameLine]
  | octal small =>
      have first := octal_digit_properties (Nat.mod_lt (c.toNat / 64) (by decide : 0 < 8))
      have second := octal_digit_properties (Nat.mod_lt (c.toNat / 8) (by decide : 0 < 8))
      have third := octal_digit_properties (Nat.mod_lt c.toNat (by decide : 0 < 8))
      simp [Text.threeOctalDigits, scan, Pending.take, first, second, third]
  | plain unquoted unescaped sameLine => simp [scan, Pending.take, unquoted, unescaped, sameLine]

theorem scan_escaped (text : List Char) (stringType : StringType) (body rest : List Char) :
    scan (.quote stringType body false) (escaped text ++ '"' :: rest) =
      .quote stringType (body ++ escaped text) :: scan .nothing rest := by
  induction text generalizing body with
  | nil => simp [escaped, scan, Pending.take]
  | cons c text ih =>
      have split : escaped (c :: text) = escapedChar c ++ escaped text := rfl
      rw [split, List.append_assoc, scan_written (written_escaped_char c), ih, List.append_assoc]

theorem scan_string_literal (stringType : StringType) (text : String) (rest : List Char) :
    scan .nothing ((stringLiteral stringType text).toList ++ rest) =
      .quote stringType (escaped text.toList) :: scan .nothing rest := by
  have inside := scan_escaped text.toList stringType [] rest
  rw [List.nil_append] at inside
  cases stringType with
  | narrow =>
      have opening : advance .nothing ['"'] = ([], .quote .narrow [] false) := by decide
      have literal : (stringLiteral .narrow text).toList ++ rest =
          ['"'] ++ (escaped text.toList ++ '"' :: rest) := by
        simp [stringLiteral, literalMark]
      rw [literal, scan_piece opening, inside]
      rfl
  | wide =>
      have opening : advance .nothing ['L', '"'] = ([], .quote .wide [] false) := by decide
      have literal : (stringLiteral .wide text).toList ++ rest =
          ['L', '"'] ++ (escaped text.toList ++ '"' :: rest) := by
        simp [stringLiteral, literalMark]
      rw [literal, scan_piece opening, inside]
      rfl

theorem unescape_octal_end (value : Nat) (rest : List Char) :
    unescape (.octal value 0) rest = (unescape .none rest).map (Char.ofNat value :: ·) := by
  cases rest with
  | nil => rfl
  | cons c rest => cases Text.radixDigit? 8 c <;> simp [unescape]

theorem unescape_written {c : Char} {text : List Char} (written : Written c text)
    (rest : List Char) :
    unescape .none (text ++ rest) = (unescape .none rest).map (c :: ·) := by
  cases written with
  | simple mark escape sameLine => simp [unescape, escape]
  | octal small =>
      have first := octal_digit_properties (Nat.mod_lt (c.toNat / 64) (by decide : 0 < 8))
      have second := octal_digit_properties (Nat.mod_lt (c.toNat / 8) (by decide : 0 < 8))
      have third := octal_digit_properties (Nat.mod_lt c.toNat (by decide : 0 < 8))
      have whole : (c.toNat / 64 % 8 * 8 + c.toNat / 8 % 8) * 8 + c.toNat % 8 = c.toNat := by omega
      simp [Text.threeOctalDigits, unescape, first, second, third, whole, unescape_octal_end]
  | plain unquoted unescaped sameLine => simp [unescape, unescaped]

theorem unescape_escaped (text : List Char) : unescape .none (escaped text) = some text := by
  induction text with
  | nil => rfl
  | cons c text ih =>
      have split : escaped (c :: text) = escapedChar c ++ escaped text := rfl
      rw [split, unescape_written (written_escaped_char c), ih]
      rfl

def textExpression (stringType : StringType) (text : String) : Expression :=
  .text stringType (escaped text.toList)

theorem read_text_operand (stringType : StringType) (text : String) (fuel : Nat)
    (rest : List Token) :
    readOperand (fuel + 1) (.quote stringType (escaped text.toList) :: rest) =
      some (textExpression stringType text, rest) := by
  simp [readOperand, textExpression]

theorem evaluate_text (scope : Scope) (stringType : StringType) (text : String) :
    scope.evaluate (textExpression stringType text) = some (.view text.toList) := by
  simp [textExpression, Scope.evaluate, unescape_escaped]

end EnumHeader.Cpp.Reading

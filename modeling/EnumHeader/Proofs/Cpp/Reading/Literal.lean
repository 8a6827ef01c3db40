import EnumHeader.Proofs.Cpp.Reading.Chain
import EnumHeader.Proofs.Cpp.Reading.Number

/-!
# Literals in front of any text

The tokens of an integer literal, and the expression that is read from them wherever the literal
stands as an operand. The values that these expressions have are the subject of another module.
-/

namespace EnumHeader.Cpp.Reading

set_option autoImplicit false

def castTokens (typeName : String) (n : Nat) : List Token :=
  [.word "static_cast", .mark "<", .word typeName, .mark ">", .mark "(",
    .number (upperHexText n .ull), .mark ")"]

def literalTokens : Literal → List Token
  | .decimal (.ofNat n) suffix => [.number (decimalText n suffix)]
  | .decimal (.negSucc n) suffix => [.mark "-", .number (decimalText (n + 1) suffix)]
  | .negatedLessOne magnitude suffix =>
      [.mark "(", .mark "-", .number (decimalText magnitude suffix), .mark "-",
        .number (decimalText 1 .none), .mark ")"]
  | .hexadecimal n suffix => [.number (upperHexText n suffix)]
  | .halves high low typeName =>
      [.mark "(", .mark "("] ++ castTokens typeName high ++
        [.mark "<<", .number (decimalText 64 .none), .mark ")", .mark "|"] ++
        castTokens typeName low ++ [.mark ")"]

def numberExpression (n : Nat) (suffix : Suffix) : Expression :=
  .integer n (decimalRadix n) suffix

def castExpression (typeName : String) (n : Nat) : Expression :=
  .cast typeName (.integer n 16 .ull)

def literalExpression : Literal → Expression
  | .decimal (.ofNat n) suffix => numberExpression n suffix
  | .decimal (.negSucc n) suffix => .negate (numberExpression (n + 1) suffix)
  | .negatedLessOne magnitude suffix =>
      .binary .minus (.negate (numberExpression magnitude suffix)) (numberExpression 1 .none)
  | .hexadecimal n suffix => .integer n 16 suffix
  | .halves high low typeName =>
      .binary .bitOr
        (.binary .shiftLeft (castExpression typeName high) (numberExpression 64 .none))
        (castExpression typeName low)

def HasWordType : Literal → Prop
  | .halves _ _ typeName => IsWord typeName
  | _ => True

theorem scan_minus_number {text : List Char} (number : IsNumber text) (rest : List Char)
    (separate : Separate rest) :
    scan .nothing ('-' :: (text ++ rest)) = .mark "-" :: .number text :: scan .nothing rest := by
  have minus : advance .nothing ['-'] = ([], .mark ['-']) := by decide
  have symbol : String.ofList ['-'] = "-" := by decide
  have start := scan_piece minus (text ++ rest)
  rw [List.singleton_append, List.nil_append] at start
  rw [start, scan_mark_word number.nonempty number.parts, scan_number number rest separate, symbol]

def castText (typeName : String) (n : Nat) : List Char :=
  "static_cast<".toList ++ (typeName.toList ++ (">(".toList ++ (upperHexText n .ull ++ [')'])))

theorem scan_cast {typeName : String} (word : IsWord typeName) (n : Nat) (rest : List Char) :
    scan .nothing (castText typeName n ++ rest) = castTokens typeName n ++ scan .nothing rest := by
  have opening : advance .nothing "static_cast<".toList = ([.word "static_cast"], .mark ['<']) := by
    decide
  have middle : advance .nothing ">(".toList = ([.mark ">", .mark "("], .nothing) := by decide
  have closing : advance .nothing [')'] = ([.mark ")"], .nothing) := by decide
  have symbol : String.ofList ['<'] = "<" := by decide
  have afterName (text : List Char) : Separate (">(".toList ++ text) :=
    separate_append (by decide) text
  have afterNumber (text : List Char) : Separate ([')'] ++ text) :=
    separate_append (by decide) text
  have number := hex_is_number n .ull
  delta castText
  simp only [List.append_assoc]
  rw [scan_piece opening, scan_mark_word word.nonempty word.parts,
    scan_name word _ (afterName _), scan_piece middle, scan_number number _ (afterNumber _),
    scan_piece closing, symbol]
  simp only [castTokens, List.cons_append, List.nil_append]

theorem decimal_literal_text (n : Nat) (suffix : Suffix) :
    (Literal.decimal (.ofNat n) suffix).text.toList = decimalText n suffix := by
  have text : (Literal.decimal (.ofNat n) suffix).text = toString n ++ suffix.text := rfl
  rw [text]
  simp [decimalText]

theorem negative_literal_text (n : Nat) (suffix : Suffix) :
    (Literal.decimal (.negSucc n) suffix).text.toList = '-' :: decimalText (n + 1) suffix := by
  have text : (Literal.decimal (.negSucc n) suffix).text =
      "-" ++ toString (n + 1) ++ suffix.text := rfl
  simp [text, decimalText]

theorem difference_literal_text (magnitude : Nat) (suffix : Suffix) :
    (Literal.negatedLessOne magnitude suffix).text.toList =
      "(".toList ++ '-' :: (decimalText magnitude suffix ++ " - 1)".toList) := by
  have text : (Literal.negatedLessOne magnitude suffix).text =
      "(-" ++ toString magnitude ++ suffix.text ++ " - 1)" := rfl
  simp [text, decimalText]

theorem hex_literal_text (n : Nat) (suffix : Suffix) :
    (Literal.hexadecimal n suffix).text.toList = upperHexText n suffix := by
  have text : (Literal.hexadecimal n suffix).text =
      "0x" ++ Text.upperHexDigits n ++ suffix.text := rfl
  simp [text, upperHexText, Text.upperHexDigits]

theorem halves_literal_text (high low : Nat) (typeName : String) :
    (Literal.halves high low typeName).text.toList =
      "((".toList ++ (castText typeName high ++ (" << 64) | ".toList ++
        (castText typeName low ++ [')']))) := by
  have text : (Literal.halves high low typeName).text =
      "((static_cast<" ++ typeName ++ ">(0x" ++ Text.upperHexDigits high ++
        "ULL) << 64) | static_cast<" ++ typeName ++ ">(0x" ++ Text.upperHexDigits low ++
        "ULL))" := by
    delta Literal.text
    rfl
  delta castText
  simp [text, upperHexText, Text.upperHexDigits, Suffix.text]

theorem scan_literal {literal : Literal} (word : HasWordType literal) (rest : List Char)
    (separate : Separate rest) :
    scan .nothing (literal.text.toList ++ rest) = literalTokens literal ++ scan .nothing rest := by
  cases literal with
  | decimal value suffix =>
      cases value with
      | ofNat n =>
          rw [decimal_literal_text, scan_number (decimal_is_number n suffix) rest separate]
          simp only [literalTokens, List.cons_append, List.nil_append]
      | negSucc n =>
          rw [negative_literal_text, List.cons_append,
            scan_minus_number (decimal_is_number (n + 1) suffix) rest separate]
          simp only [literalTokens, List.cons_append, List.nil_append]
  | negatedLessOne magnitude suffix =>
      have opening : advance .nothing "(".toList = ([.mark "("], .nothing) := by decide
      have ending : advance .nothing " - 1)".toList =
          ([.mark "-", .number (decimalText 1 .none), .mark ")"], .nothing) := by decide
      have afterNumber : Separate (" - 1)".toList ++ rest) := separate_append (by decide) rest
      rw [difference_literal_text, List.append_assoc, List.cons_append, List.append_assoc,
        scan_piece opening, scan_minus_number (decimal_is_number magnitude suffix) _ afterNumber,
        scan_piece ending]
      simp only [literalTokens, List.cons_append, List.nil_append]
  | hexadecimal n suffix =>
      rw [hex_literal_text, scan_number (hex_is_number n suffix) rest separate]
      simp only [literalTokens, List.cons_append, List.nil_append]
  | halves high low typeName =>
      have opening : advance .nothing "((".toList = ([.mark "(", .mark "("], .nothing) := by decide
      have middle : advance .nothing " << 64) | ".toList =
          ([.mark "<<", .number (decimalText 64 .none), .mark ")", .mark "|"], .nothing) := by decide
      have closing : advance .nothing [')'] = ([.mark ")"], .nothing) := by decide
      rw [halves_literal_text]
      simp only [List.append_assoc]
      rw [scan_piece opening, scan_cast word, scan_piece middle, scan_cast word, scan_piece closing]
      simp only [literalTokens, List.cons_append, List.nil_append, List.append_assoc]

theorem read_cast_literal (fuel : Nat) (typeName : String) (n : Nat) (rest : List Token) :
    readOperand (fuel + 3) (castTokens typeName n ++ rest) =
      some (castExpression typeName n, rest) := by
  have number := read_number_operand (read_hex n .ull) fuel (.mark ")" :: rest)
  exact read_static_cast typeName (read_chain_operand number (stops_parenthesis 0 rest))

theorem read_literal (literal : Literal) (fuel : Nat) (rest : List Token) :
    readOperand (fuel + 7) (literalTokens literal ++ rest) =
      some (literalExpression literal, rest) := by
  cases literal with
  | decimal value suffix =>
      cases value with
      | ofNat n => exact read_number_operand (read_decimal n suffix) (fuel + 6) rest
      | negSucc n =>
          exact read_negation (read_number_operand (read_decimal (n + 1) suffix) (fuel + 5) rest)
  | negatedLessOne magnitude suffix =>
      have least := read_negation (read_number_operand (read_decimal magnitude suffix) (fuel + 3)
        (.mark "-" :: .number (decimalText 1 .none) :: .mark ")" :: rest))
      have one := read_number_operand (read_decimal 1 .none) (fuel + 2) (.mark ")" :: rest)
      exact read_parentheses (read_chain_binary .minus (by decide) least
        (read_chain_operand one (stops_parenthesis 7 rest)) (stops_parenthesis 0 rest))
  | hexadecimal n suffix => exact read_number_operand (read_hex n suffix) (fuel + 6) rest
  | halves high low typeName =>
      have close := stops_parenthesis
      let lower := castTokens typeName low ++ .mark ")" :: rest
      have upper := read_cast_literal fuel typeName high
        (.mark "<<" :: .number (decimalText 64 .none) :: .mark ")" :: .mark "|" :: lower)
      have count := read_number_operand (read_decimal 64 .none) fuel
        (.mark ")" :: .mark "|" :: lower)
      have shifted := read_parentheses (read_chain_binary .shiftLeft (by decide) upper
        (read_chain_operand count (close 6 _)) (close 0 _))
      have lowest := read_cast_literal fuel typeName low (.mark ")" :: rest)
      have joined := read_parentheses (read_chain_binary .bitOr (by decide) shifted
        (read_chain_operand lowest (close 3 _)) (close 0 _))
      simpa [literalTokens, literalExpression, numberExpression, lower] using joined

theorem tokens_of_literal_nonempty (literal : Literal) : 0 < (literalTokens literal).length := by
  cases literal with
  | decimal value suffix => cases value <;> exact Nat.succ_pos _
  | negatedLessOne | hexadecimal | halves => exact Nat.succ_pos _

theorem read_literal_text {literal : Literal} (word : HasWordType literal) :
    readExpression (tokens literal.text) = some (literalExpression literal, []) := by
  have whole : tokens literal.text = literalTokens literal ++ [] := by
    have scanned := scan_literal word [] separate_nil
    rwa [List.append_nil] at scanned
  have nonempty := tokens_of_literal_nonempty literal
  rw [whole]
  apply read_expression_of_chain 8 (by simp; omega)
  intro fuel
  exact read_chain_operand (read_literal literal fuel []) trivial

end EnumHeader.Cpp.Reading

import EnumHeader.Proofs.Cpp.Reading.Literal
import Mathlib.Data.List.Basic

/-!
# Integer constants as they are written

The reader of function bodies takes a type for one word. A constant may be cast to a type of any
name, of several words or qualified, so here the name is given and the text is read one character
after the other. What is read are integer tokens, also negated ones, casts to the named type, and
single operations in parentheses; whatever is not among these forms has no reading.
-/

namespace EnumHeader.Cpp

set_option autoImplicit false

open Reading

def castOpening (typeName : String) : List Char :=
  "static_cast<".toList ++ (typeName.toList ++ ">(".toList)

def readToken (text : List Char) : Option (Expression × List Char) := do
  let value ← readNumber (text.takeWhile Text.isNamePart)
  some (value, text.dropWhile Text.isNamePart)

def readOperator (text : List Char) : Option (Operator × List Char) := do
  let start := text.dropWhile isBlank
  let operator ← Operator.ofSymbol? (String.ofList (start.takeWhile isOperator))
  some (operator, (start.dropWhile isOperator).dropWhile isBlank)

/-- A constant at the start of a text, with the text after it. The number bounds the depth of
nesting. -/
def readConstant (typeName : String) : Nat → List Char → Option (Expression × List Char)
  | 0, _ => none
  | fuel + 1, text =>
      match text with
      | '(' :: inside => do
          let (left, rest) ← readConstant typeName fuel inside
          let (operator, rest) ← readOperator rest
          let (right, rest) ← readConstant typeName fuel rest
          let rest ← rest.dropPrefix? [')']
          some (.binary operator left right, rest)
      | '-' :: rest => do
          let (operand, rest) ← readToken rest
          some (.negate operand, rest)
      | _ =>
          match text.dropPrefix? (castOpening typeName) with
          | some inside => do
              let (operand, rest) ← readConstant typeName fuel inside
              let rest ← rest.dropPrefix? [')']
              some (.cast typeName operand, rest)
          | none => readToken text

/-- A text that is one constant. Every level of nesting takes a character. -/
def readConstantText (typeName text : String) : Option Expression := do
  let (expression, rest) ← readConstant typeName (text.toList.length + 1) text.toList
  if rest = [] then some expression else none

def Literal.JoinsIn (typeName : String) : Literal → Prop
  | .halves _ _ joined => joined = typeName
  | _ => True

def Literal.depth : Literal → Nat
  | .decimal .. | .hexadecimal .. => 1
  | .negatedLessOne .. => 2
  | .halves .. => 4

theorem drop_prefix_append (part rest : List Char) :
    (part ++ rest).dropPrefix? part = some rest :=
  List.dropPrefix?_append_of_beq rest (beq_self_eq_true part)

theorem drop_closing (rest : List Char) : (')' :: rest).dropPrefix? [')'] = some rest :=
  drop_prefix_append [')'] rest

theorem cast_opening_head (typeName : String) : ∃ more, castOpening typeName = 's' :: more :=
  ⟨_, rfl⟩

theorem separate_closing (rest : List Char) : Separate (')' :: rest) := by
  intro c first
  cases first
  decide

theorem separate_blank (rest : List Char) : Separate (' ' :: rest) := by
  intro c first
  cases first
  decide

theorem read_token_number {text : List Char} (number : IsNumber text) {value : Expression}
    (reads : readNumber text = some value) {rest : List Char} (separate : Separate rest) :
    readToken (text ++ rest) = some (value, rest) := by
  have ends : rest.takeWhile Text.isNamePart = [] ∧ rest.dropWhile Text.isNamePart = rest := by
    cases rest with
    | nil => exact ⟨rfl, rfl⟩
    | cons c rest => simp [(separate c rfl).1]
  simp [readToken, List.takeWhile_append_of_pos number.parts,
    List.dropWhile_append_of_pos number.parts, ends, reads]

theorem read_operator_spaced (operator : Operator) {c : Char} (starts : isBlank c = false)
    (rest : List Char) :
    readOperator (' ' :: (operator.symbol.toList ++ ' ' :: c :: rest)) =
      some (operator, c :: rest) := by
  have parts : ∀ part ∈ operator.symbol.toList, isOperator part = true := by
    cases operator <;> simp [Operator.symbol, isOperator]
  have ends : isOperator ' ' = false ∧ isBlank ' ' = true := by decide
  have begins : ∃ first more, operator.symbol.toList = first :: more ∧ isBlank first = false := by
    cases operator <;> exact ⟨_, _, rfl, by decide⟩
  obtain ⟨first, more, symbol, unblank⟩ := begins
  have start : (' ' :: (operator.symbol.toList ++ ' ' :: c :: rest)).dropWhile isBlank =
      operator.symbol.toList ++ ' ' :: c :: rest := by
    simp [symbol, unblank, ends]
  have taken : (operator.symbol.toList ++ ' ' :: c :: rest).takeWhile isOperator =
      operator.symbol.toList := by
    rw [List.takeWhile_append_of_pos parts]
    simp [ends]
  have left : (operator.symbol.toList ++ ' ' :: c :: rest).dropWhile isOperator =
      ' ' :: c :: rest := by
    rw [List.dropWhile_append_of_pos parts]
    simp [ends]
  have after : (' ' :: c :: rest).dropWhile isBlank = c :: rest := by simp [ends, starts]
  simp only [readOperator, start, taken, left, after, String.ofList_toList, operator_of_symbol,
    Option.bind_eq_bind, Option.bind_some]

section Forms

variable (typeName : String)

theorem read_constant_number {text : List Char} (number : IsNumber text) {value : Expression}
    (reads : readNumber text = some value) (fuel : Nat) {rest : List Char}
    (separate : Separate rest) :
    readConstant typeName (fuel + 1) (text ++ rest) = some (value, rest) := by
  have token := read_token_number number reads separate
  obtain ⟨first, more, rfl, digit⟩ := number.start
  -- A digit starts neither of the other forms.
  have unopened : first ≠ '(' := by rintro rfl; exact absurd digit (by decide)
  have positive : first ≠ '-' := by rintro rfl; exact absurd digit (by decide)
  have plain : first ≠ 's' := by rintro rfl; exact absurd digit (by decide)
  have uncast : (first :: more ++ rest).dropPrefix? (castOpening typeName) = none := by
    obtain ⟨opening, head⟩ := cast_opening_head typeName
    rw [head, List.cons_append, List.dropPrefix?]
    simp [plain]
  rw [List.cons_append] at token uncast ⊢
  simp [readConstant, unopened, positive, uncast, token]

theorem read_constant_negated {text : List Char} (number : IsNumber text) {value : Expression}
    (reads : readNumber text = some value) (fuel : Nat) {rest : List Char}
    (separate : Separate rest) :
    readConstant typeName (fuel + 1) ('-' :: (text ++ rest)) = some (.negate value, rest) := by
  simp [readConstant, read_token_number number reads separate]

variable {typeName}

theorem read_constant_cast {fuel : Nat} {text rest : List Char} {operand : Expression}
    (reads : readConstant typeName fuel text = some (operand, ')' :: rest)) :
    readConstant typeName (fuel + 1) (castOpening typeName ++ text) =
      some (.cast typeName operand, rest) := by
  have opening := drop_prefix_append (castOpening typeName) text
  obtain ⟨more, head⟩ := cast_opening_head typeName
  rw [head, List.cons_append, ← head] at opening
  rw [head, List.cons_append]
  simp [readConstant, opening, reads, drop_closing]

theorem read_constant_binary {fuel : Nat} {text middle after rest : List Char}
    {left right : Expression} {operator : Operator}
    (first : readConstant typeName fuel text = some (left, middle))
    (joins : readOperator middle = some (operator, after))
    (second : readConstant typeName fuel after = some (right, ')' :: rest)) :
    readConstant typeName (fuel + 1) ('(' :: text) = some (.binary operator left right, rest) := by
  simp [readConstant, first, joins, second, drop_closing]

end Forms

section Literals

variable (typeName : String)

theorem read_constant_decimal (n : Nat) (suffix : Suffix) (fuel : Nat) {rest : List Char}
    (separate : Separate rest) :
    readConstant typeName (fuel + 1) (decimalText n suffix ++ rest) =
      some (numberExpression n suffix, rest) :=
  read_constant_number typeName (decimal_is_number n suffix) (read_decimal n suffix) fuel separate

theorem read_constant_negative (n : Nat) (suffix : Suffix) (fuel : Nat) {rest : List Char}
    (separate : Separate rest) :
    readConstant typeName (fuel + 1) ('-' :: (decimalText n suffix ++ rest)) =
      some (.negate (numberExpression n suffix), rest) :=
  read_constant_negated typeName (decimal_is_number n suffix) (read_decimal n suffix) fuel separate

theorem read_constant_half (n fuel : Nat) (rest : List Char) :
    readConstant typeName (fuel + 2) (castText typeName n ++ rest) =
      some (castExpression typeName n, rest) := by
  have text : castText typeName n ++ rest =
      castOpening typeName ++ (upperHexText n .ull ++ ')' :: rest) := by
    delta castText castOpening
    simp only [List.append_assoc, List.singleton_append]
  rw [text]
  exact read_constant_cast (read_constant_number typeName (hex_is_number n .ull) (read_hex n .ull)
    fuel (separate_closing rest))

variable {typeName}

theorem read_constant_literal {literal : Literal} (joins : literal.JoinsIn typeName) (fuel : Nat)
    {rest : List Char} (separate : Separate rest) :
    readConstant typeName (fuel + literal.depth) (literal.text.toList ++ rest) =
      some (literalExpression literal, rest) := by
  cases literal with
  | decimal value suffix =>
      cases value with
      | ofNat n =>
          rw [decimal_literal_text]
          exact read_constant_decimal typeName n suffix fuel separate
      | negSucc n =>
          rw [negative_literal_text]
          exact read_constant_negative typeName (n + 1) suffix fuel separate
  | negatedLessOne magnitude suffix =>
      have least := read_constant_negative typeName magnitude suffix fuel
        (separate_blank ("- 1)".toList ++ rest))
      have minus := read_operator_spaced .minus (by decide : isBlank '1' = false) (')' :: rest)
      have one := read_constant_decimal typeName 1 .none fuel (separate_closing rest)
      have whole := read_constant_binary least minus one
      rw [difference_literal_text]
      simpa [Literal.depth, literalExpression, Nat.add_assoc] using whole
  | hexadecimal n suffix =>
      rw [hex_literal_text]
      exact read_constant_number typeName (hex_is_number n suffix) (read_hex n suffix) fuel separate
  | halves high low joined =>
      obtain rfl : joined = typeName := joins
      let lower := castText joined low ++ ')' :: rest
      obtain ⟨more, head⟩ : ∃ more, lower = 's' :: more := ⟨_, rfl⟩
      have upper := read_constant_half joined high fuel (" << 64) | ".toList ++ lower)
      have shift := read_operator_spaced .shiftLeft (by decide : isBlank '6' = false)
        ("4) | ".toList ++ lower)
      have count := read_constant_decimal joined 64 .none (fuel + 1)
        (separate_closing (" | ".toList ++ lower))
      have shifted := read_constant_binary upper shift count
      have join := read_operator_spaced .bitOr (by decide : isBlank 's' = false) more
      rw [← head] at join
      have lowest := read_constant_half joined low (fuel + 1) (')' :: rest)
      have whole := read_constant_binary shifted join lowest
      rw [halves_literal_text]
      simpa [Literal.depth, literalExpression, lower, Nat.add_assoc] using whole

theorem depth_of_literal (literal : Literal) : literal.depth ≤ literal.text.toList.length + 1 := by
  cases literal with
  | decimal | hexadecimal => exact Nat.le_add_left 1 _
  | negatedLessOne magnitude suffix =>
      rw [difference_literal_text]
      simp [Literal.depth]
  | halves high low joined =>
      rw [halves_literal_text]
      simp [Literal.depth]
      omega

theorem read_constant_text_literal {literal : Literal} (joins : literal.JoinsIn typeName) :
    readConstantText typeName literal.text = some (literalExpression literal) := by
  have reads := read_constant_literal joins (literal.text.toList.length + 1 - literal.depth)
    separate_nil
  rw [Nat.sub_add_cancel (depth_of_literal literal), List.append_nil] at reads
  simp [readConstantText, reads]

end Literals

end EnumHeader.Cpp

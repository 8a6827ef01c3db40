import EnumHeader.Proofs.Cpp.Reading.Expression
import Mathlib.Tactic.Common

/-!
# Operands and chains

How the reader of expressions gets along with each form that it knows, whatever the tokens after it.
A chain ends where no operator of its rank follows. The depth that a form needs is counted from
below, so that every larger depth will do.
-/

namespace EnumHeader.Cpp.Reading

set_option autoImplicit false

def Stops (rank : Nat) : List Token → Prop
  | .mark symbol :: _ => ∀ operator, Operator.ofSymbol? symbol = some operator → operator.rank < rank
  | _ => True

theorem stops_of_no_operator {symbol : String} (none : Operator.ofSymbol? symbol = none)
    (rank : Nat) (rest : List Token) : Stops rank (.mark symbol :: rest) := by
  intro operator known
  rw [none] at known
  cases known

theorem operator_of_symbol (operator : Operator) :
    Operator.ofSymbol? operator.symbol = some operator := by
  cases operator <;> decide

theorem stops_of_low_rank {rank : Nat} (operator : Operator) (low : operator.rank < rank)
    (rest : List Token) : Stops rank (.mark operator.symbol :: rest) := by
  intro other known
  rw [operator_of_symbol] at known
  cases known
  exact low

theorem extend_chain_stop {rank : Nat} {rest : List Token} (stops : Stops rank rest) (fuel : Nat)
    (left : Expression) : extendChain (fuel + 1) rank left rest = some (left, rest) := by
  unfold extendChain
  split
  next symbol more =>
    split
    next operator known => rw [if_pos (stops operator known)]
    next => rfl
  next => rfl

theorem read_chain_of_operand {fuel rank : Nat} {tokens rest : List Token} {left : Expression}
    (reads : readOperand fuel tokens = some (left, rest)) :
    readChain (fuel + 1) rank tokens = extendChain fuel rank left rest := by
  simp [readChain, reads]

theorem extend_chain_binary {fuel rank : Nat} (operator : Operator) (binds : rank ≤ operator.rank)
    {tokens rest : List Token} {right : Expression}
    (reads : readChain fuel (operator.rank + 1) tokens = some (right, rest)) (left : Expression) :
    extendChain (fuel + 1) rank left (.mark operator.symbol :: tokens) =
      extendChain fuel rank (.binary operator left right) rest := by
  have notLower : ¬ operator.rank < rank := by omega
  simp [extendChain, operator_of_symbol, notLower, reads]

theorem read_chain_operand {fuel rank : Nat} {tokens rest : List Token} {operand : Expression}
    (reads : readOperand (fuel + 1) tokens = some (operand, rest)) (stops : Stops rank rest) :
    readChain (fuel + 2) rank tokens = some (operand, rest) := by
  rw [read_chain_of_operand reads, extend_chain_stop stops]

theorem read_chain_binary {fuel rank : Nat} (operator : Operator) (binds : rank ≤ operator.rank)
    {tokens middle rest : List Token} {left right : Expression}
    (first : readOperand (fuel + 2) tokens = some (left, .mark operator.symbol :: middle))
    (second : readChain (fuel + 1) (operator.rank + 1) middle = some (right, rest))
    (stops : Stops rank rest) :
    readChain (fuel + 3) rank tokens = some (.binary operator left right, rest) := by
  rw [read_chain_of_operand first, extend_chain_binary operator binds second,
    extend_chain_stop stops]

/-- The depth that the reader allows is enough for what it reads at every larger depth. -/
theorem read_expression_of_chain {tokens : List Token} {reading : Option (Expression × List Token)}
    (depth : Nat) (enough : depth ≤ 4 * tokens.length + 4)
    (reads : ∀ fuel, readChain (fuel + depth) 0 tokens = reading) :
    readExpression tokens = reading := by
  have whole := reads (4 * tokens.length + 4 - depth)
  rwa [Nat.sub_add_cancel enough] at whole

theorem read_number_operand {text : List Char} {value : Expression}
    (reads : readNumber text = some value) (fuel : Nat) (rest : List Token) :
    readOperand (fuel + 1) (.number text :: rest) = some (value, rest) := by
  simp [readOperand, reads]

theorem expect_self (token : Token) (rest : List Token) :
    expect token (token :: rest) = some rest := by
  simp [expect]

theorem read_path_mark (symbol : String) (other : symbol ≠ "::") (rest : List Token) :
    readPath (.mark symbol :: rest) = ([], .mark symbol :: rest) := by
  cases rest with
  | nil => rfl
  | cons next rest => cases next <;> simp [readPath, other]

def EndsName (symbol : String) : Prop :=
  symbol ≠ "::" ∧ symbol ≠ "(" ∧ symbol ≠ "."

instance (symbol : String) : Decidable (EndsName symbol) :=
  inferInstanceAs (Decidable (_ ∧ _))

theorem read_name_operand (name symbol : String) (plain : name ≠ "static_cast")
    (ends : EndsName symbol) (fuel : Nat) (rest : List Token) :
    readOperand (fuel + 1) (.word name :: .mark symbol :: rest) =
      some (.name [name], .mark symbol :: rest) := by
  obtain ⟨unqualified, uncalled, whole⟩ := ends
  simp [readOperand, plain, read_path_mark symbol unqualified, expect, readField, uncalled, whole]

theorem read_path_one (symbol : String) (other : symbol ≠ "::") (name : String)
    (rest : List Token) :
    readPath (.mark "::" :: .word name :: .mark symbol :: rest) = ([name], .mark symbol :: rest) := by
  simp [readPath, read_path_mark symbol other]

theorem read_qualified_operand (qualifier name symbol : String) (plain : qualifier ≠ "static_cast")
    (ends : EndsName symbol) (fuel : Nat) (rest : List Token) :
    readOperand (fuel + 1) (.word qualifier :: .mark "::" :: .word name :: .mark symbol :: rest) =
      some (.name [qualifier, name], .mark symbol :: rest) := by
  obtain ⟨unqualified, uncalled, whole⟩ := ends
  simp [readOperand, plain, read_path_one symbol unqualified, expect, readField, uncalled, whole]

theorem read_field_operand (name field : String) (plain : name ≠ "static_cast") (fuel : Nat)
    (rest : List Token) :
    readOperand (fuel + 1) (.word name :: .mark "." :: .word field :: rest) =
      some (.field [name] field, rest) := by
  have path := read_path_mark "." (by decide) (.word field :: rest)
  simp [readOperand, plain, path, expect, readField, readWord]

theorem read_empty_operand (qualifier name : String) (plain : qualifier ≠ "static_cast")
    (fuel : Nat) (rest : List Token) :
    readOperand (fuel + 1)
        (.word qualifier :: .mark "::" :: .word name :: .mark "(" :: .mark ")" :: rest) =
      some (.empty [qualifier, name], rest) := by
  have path := read_path_one "(" (by decide) name (.mark ")" :: rest)
  simp [readOperand, plain, path, expect]

theorem read_construction {fuel : Nat} (owner : String) (plain : owner ≠ "static_cast")
    {tokens rest : List Token} {argument : Expression}
    (given : ∀ more, tokens ≠ .mark ")" :: more)
    (reads : readChain fuel 0 tokens = some (argument, .mark ")" :: rest)) :
    readOperand (fuel + 1) (.word owner :: .mark "(" :: tokens) =
      some (.construct [owner] argument, rest) := by
  have path := read_path_mark "(" (by decide) tokens
  have nonempty : expect (.mark ")") tokens = none := by
    cases tokens with
    | nil => rfl
    | cons first more =>
        have other : first ≠ .mark ")" := fun same => given more (by rw [same])
        simp [expect, other]
  simp [readOperand, plain, path, expect_self, nonempty, reads]

theorem read_negation {fuel : Nat} {tokens rest : List Token} {operand : Expression}
    (reads : readOperand fuel tokens = some (operand, rest)) :
    readOperand (fuel + 1) (.mark "-" :: tokens) = some (.negate operand, rest) := by
  simp [readOperand, reads]

theorem read_parentheses {fuel : Nat} {tokens rest : List Token} {inner : Expression}
    (reads : readChain fuel 0 tokens = some (inner, .mark ")" :: rest)) :
    readOperand (fuel + 1) (.mark "(" :: tokens) = some (inner, rest) := by
  simp [readOperand, reads, expect]

theorem read_static_cast {fuel : Nat} (typeName : String) {tokens rest : List Token}
    {operand : Expression}
    (reads : readChain fuel 0 tokens = some (operand, .mark ")" :: rest)) :
    readOperand (fuel + 1)
        (.word "static_cast" :: .mark "<" :: .word typeName :: .mark ">" :: .mark "(" :: tokens) =
      some (.cast typeName operand, rest) := by
  simp [readOperand, readCastType, readWord, reads, expect]

theorem stops_semicolon (rank : Nat) (rest : List Token) : Stops rank (.mark ";" :: rest) :=
  stops_of_no_operator (by decide) rank rest

theorem stops_parenthesis (rank : Nat) (rest : List Token) : Stops rank (.mark ")" :: rest) :=
  stops_of_no_operator (by decide) rank rest

end EnumHeader.Cpp.Reading

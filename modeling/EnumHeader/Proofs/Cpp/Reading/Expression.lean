import EnumHeader.Cpp.Literal
import EnumHeader.Proofs.Cpp.Reading.Token

/-!
# Expressions of generated source

The expressions that generated function bodies consist of, read from tokens with the precedence of
the language. Names are kept as qualified paths and calls as constructions of a type; what they
stand for is decided in evaluation. Whatever is not among these forms has no reading.
-/

namespace EnumHeader.Cpp.Reading

set_option autoImplicit false

inductive Operator where
  | and
  | bitOr
  | equal
  | lessEqual
  | greaterEqual
  | shiftLeft
  | minus
  deriving Repr, DecidableEq, Inhabited

def Operator.symbol : Operator → String
  | .and => "&&"
  | .bitOr => "|"
  | .equal => "=="
  | .lessEqual => "<="
  | .greaterEqual => ">="
  | .shiftLeft => "<<"
  | .minus => "-"

/-- Operators of higher rank bind more tightly; those of one rank group to the left. -/
def Operator.rank : Operator → Nat
  | .and => 1
  | .bitOr => 2
  | .equal => 3
  | .lessEqual | .greaterEqual => 4
  | .shiftLeft => 5
  | .minus => 6

def Operator.ofSymbol? (symbol : String) : Option Operator :=
  [Operator.and, .bitOr, .equal, .lessEqual, .greaterEqual, .shiftLeft, .minus].find?
    (·.symbol = symbol)

inductive Expression where
  | integer (value radix : Nat) (suffix : Suffix)
  | text (stringType : StringType) (body : List Char)
  | name (path : List String)
  | negate (operand : Expression)
  | binary (operator : Operator) (left right : Expression)
  | cast (typeName : String) (operand : Expression)
  /-- A type with empty parentheses. -/
  | empty (path : List String)
  | construct (path : List String) (argument : Expression)
  | field (path : List String) (name : String)
  deriving Repr, DecidableEq, Inhabited

def suffixOf? (text : List Char) : Option Suffix :=
  [Suffix.none, .u, .ll, .ull].find? (·.text.toList = text)

def readNumeral (radix : Nat) (text : List Char) : Option Expression := do
  let isDigit (c : Char) : Bool := (Text.radixDigit? radix c).isSome
  let value ← Text.readDigits radix (text.takeWhile isDigit)
  let suffix ← suffixOf? (text.dropWhile isDigit)
  some (.integer value radix suffix)

/-- A leading zero makes a numeral octal, and with an `x` after it hexadecimal. -/
def readNumber (text : List Char) : Option Expression :=
  if text.take 2 = ['0', 'x'] then readNumeral 16 (text.drop 2)
  else if text.head? = some '0' then readNumeral 8 text
  else readNumeral 10 text

def expect (token : Token) : List Token → Option (List Token)
  | [] => none
  | first :: rest => if first = token then some rest else none

def readWord : List Token → Option (String × List Token)
  | .word name :: rest => some (name, rest)
  | _ => none

def readPath : List Token → List String × List Token
  | .mark symbol :: .word name :: rest =>
      if symbol = "::" then (name :: (readPath rest).1, (readPath rest).2)
      else ([], .mark symbol :: .word name :: rest)
  | tokens => ([], tokens)

def readCastType (tokens : List Token) : Option (String × List Token) := do
  let tokens ← expect (.mark "<") tokens
  let (typeName, tokens) ← readWord tokens
  let tokens ← expect (.mark ">") tokens
  let tokens ← expect (.mark "(") tokens
  some (typeName, tokens)

def readField (tokens : List Token) : Option (String × List Token) := do
  let tokens ← expect (.mark ".") tokens
  readWord tokens

mutual

/-- An expression that no operator splits. The first number bounds the depth of nesting. -/
def readOperand : Nat → List Token → Option (Expression × List Token)
  | 0, _ | _ + 1, [] => none
  | fuel + 1, first :: rest =>
      match first with
      | .number text => do
          let value ← readNumber text
          some (value, rest)
      | .quote stringType body => some (.text stringType body, rest)
      | .mark symbol =>
          if symbol = "-" then do
            let (operand, rest) ← readOperand fuel rest
            some (.negate operand, rest)
          else if symbol = "(" then do
            let (inner, rest) ← readChain fuel 0 rest
            let rest ← expect (.mark ")") rest
            some (inner, rest)
          else none
      | .word name =>
          if name = "static_cast" then do
            let (typeName, rest) ← readCastType rest
            let (operand, rest) ← readChain fuel 0 rest
            let rest ← expect (.mark ")") rest
            some (.cast typeName operand, rest)
          else
            let path := name :: (readPath rest).1
            let rest := (readPath rest).2
            match expect (.mark "(") rest with
            | some inside =>
                match expect (.mark ")") inside with
                | some rest => some (.empty path, rest)
                | none => do
                    let (argument, rest) ← readChain fuel 0 inside
                    let rest ← expect (.mark ")") rest
                    some (.construct path argument, rest)
            | none =>
                match readField rest with
                | some (field, rest) => some (.field path field, rest)
                | none => some (.name path, rest)
      | .unclosed => none

/-- Operands joined by operators of at least the given rank. -/
def readChain : Nat → Nat → List Token → Option (Expression × List Token)
  | 0, _, _ => none
  | fuel + 1, rank, tokens => do
      let (left, rest) ← readOperand fuel tokens
      extendChain fuel rank left rest

def extendChain : Nat → Nat → Expression → List Token → Option (Expression × List Token)
  | 0, _, _, _ => none
  | fuel + 1, rank, left, tokens =>
      match tokens with
      | .mark symbol :: rest =>
          match Operator.ofSymbol? symbol with
          | some operator =>
              if operator.rank < rank then some (left, tokens)
              else do
                let (right, rest) ← readChain fuel (operator.rank + 1) rest
                extendChain fuel rank (.binary operator left right) rest
          | none => some (left, tokens)
      | _ => some (left, tokens)

end

/-- An expression at the start of the tokens, with the tokens after it. Each token opens at most one
level of nesting, and a level takes at most three steps. -/
def readExpression (tokens : List Token) : Option (Expression × List Token) :=
  readChain (4 * tokens.length + 4) 0 tokens

end EnumHeader.Cpp.Reading

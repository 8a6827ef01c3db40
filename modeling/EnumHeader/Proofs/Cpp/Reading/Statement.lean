import EnumHeader.Proofs.Cpp.Reading.Expression

/-!
# Statements of generated source

Function bodies are sequences of returns, tests, loops over a table and switches. A block in braces
holds one statement here, and each label of a switch has a return of its own, because nothing else
is generated.
-/

namespace EnumHeader.Cpp.Reading

set_option autoImplicit false

inductive Statement where
  | give (result : Expression)
  | test (condition : Expression) (body : Statement)
  /-- A loop over the rows of a table. -/
  | each (element table : String) (body : Statement)
  /-- A switch, with the label and the result of each case. -/
  | select (subject : Expression) (arms : List (Expression × Expression))
  deriving Repr, Inhabited

def readGive (tokens : List Token) : Option (Expression × List Token) := do
  let tokens ← expect (.word "return") tokens
  let (result, tokens) ← readExpression tokens
  let tokens ← expect (.mark ";") tokens
  some (result, tokens)

def readCondition (tokens : List Token) : Option (Expression × List Token) := do
  let tokens ← expect (.mark "(") tokens
  let (condition, tokens) ← readExpression tokens
  let tokens ← expect (.mark ")") tokens
  some (condition, tokens)

def readLoopHead (tokens : List Token) : Option (String × String × List Token) := do
  let tokens ← expect (.mark "(") tokens
  let tokens ← expect (.word "const") tokens
  let (_, tokens) ← readWord tokens
  let tokens := (expect (.mark "&") tokens).getD tokens
  let (element, tokens) ← readWord tokens
  let tokens ← expect (.mark ":") tokens
  let (table, tokens) ← readWord tokens
  let tokens ← expect (.mark ")") tokens
  some (element, table, tokens)

def readArms : Nat → List Token → Option (List (Expression × Expression) × List Token)
  | 0, _ => none
  | fuel + 1, tokens =>
      match expect (.word "case") tokens with
      | none => some ([], tokens)
      | some tokens => do
          let (label, tokens) ← readExpression tokens
          let tokens ← expect (.mark ":") tokens
          let (result, tokens) ← readGive tokens
          let (arms, tokens) ← readArms fuel tokens
          some ((label, result) :: arms, tokens)

def readStatement : Nat → List Token → Option (Statement × List Token)
  | 0, _ => none
  | fuel + 1, tokens =>
      match readWord tokens with
      | none => none
      | some (keyword, rest) =>
          if keyword = "return" then do
            let (result, tokens) ← readGive tokens
            some (.give result, tokens)
          else if keyword = "if" then do
            let (condition, tokens) ← readCondition rest
            let tokens ← expect (.mark "\x7b") tokens
            let (body, tokens) ← readStatement fuel tokens
            let tokens ← expect (.mark "\x7d") tokens
            some (.test condition body, tokens)
          else if keyword = "for" then do
            let (element, table, tokens) ← readLoopHead rest
            let tokens ← expect (.mark "\x7b") tokens
            let (body, tokens) ← readStatement fuel tokens
            let tokens ← expect (.mark "\x7d") tokens
            some (.each element table body, tokens)
          else if keyword = "switch" then do
            let (subject, tokens) ← readCondition rest
            let tokens ← expect (.mark "\x7b") tokens
            let (arms, tokens) ← readArms tokens.length tokens
            let tokens ← expect (.mark "\x7d") tokens
            some (.select subject arms, tokens)
          else none

def readBody : Nat → List Token → Option (List Statement)
  | _, [] => some []
  | 0, _ :: _ => none
  | fuel + 1, first :: rest => do
      let (statement, tokens) ← readStatement (rest.length + 1) (first :: rest)
      let statements ← readBody fuel tokens
      some (statement :: statements)

/-- The body of a function, from its lines. -/
def readLines (lines : List String) : Option (List Statement) :=
  readBody (lines.flatMap tokens).length (lines.flatMap tokens)

end EnumHeader.Cpp.Reading

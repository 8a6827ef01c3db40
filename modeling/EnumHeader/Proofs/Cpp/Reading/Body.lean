import EnumHeader.Proofs.Cpp.Reading.Chain
import EnumHeader.Proofs.Cpp.Reading.Lines
import EnumHeader.Proofs.Cpp.Reading.Statement

/-!
# Bodies in front of nothing

How the reader of statements gets along with the statements that stand last in a body, and how a
body is read from the lines that its steps write.
-/

namespace EnumHeader.Cpp.Reading

set_option autoImplicit false

theorem read_lines_of_steps {steps : List Step} {body : List Token}
    (same : (steps.flatMap Step.written).flatMap tokens = body) :
    readLines (steps.flatMap Step.written) = readBody body.length body := by
  rw [readLines, same]

theorem read_lines_of_line (text : String) :
    readLines ([Step.line text].flatMap Step.written) =
      readBody (tokens text).length (tokens text) :=
  read_lines_of_steps (by simp [Step.written])

theorem advance_return : advance .nothing "return ".toList = ([.word "return"], .nothing) := by
  decide

theorem scan_semicolon : scan .nothing ";".toList = [.mark ";"] := by
  decide

theorem separate_semicolon : Separate ";".toList :=
  separate_of_separates (by decide)

theorem tokens_of_braces :
    tokens "\x7b" = [.mark "\x7b"] ∧ tokens "\x7d" = [.mark "\x7d"] := by
  decide

section Statements

attribute [local simp] readStatement readArms readWord readGive readCondition expect

theorem read_return {tokens rest : List Token} {value : Expression}
    (reads : readExpression tokens = some (value, .mark ";" :: rest)) (fuel : Nat) :
    readStatement (fuel + 1) (.word "return" :: tokens) = some (.give value, rest) := by
  simp [reads]

theorem read_test {tokens body rest : List Token} {condition : Expression} {inner : Statement}
    {fuel : Nat} (reads : readExpression tokens = some (condition, .mark ")" :: .mark "\x7b" :: body))
    (block : readStatement fuel body = some (inner, .mark "\x7d" :: rest)) :
    readStatement (fuel + 1) (.word "if" :: .mark "(" :: tokens) =
      some (.test condition inner, rest) := by
  simp [reads, block]

theorem read_each {tokens body rest : List Token} {element table : String} {inner : Statement}
    {fuel : Nat} (reads : readLoopHead tokens = some (element, table, .mark "\x7b" :: body))
    (block : readStatement fuel body = some (inner, .mark "\x7d" :: rest)) :
    readStatement (fuel + 1) (.word "for" :: tokens) = some (.each element table inner, rest) := by
  simp [reads, block]

theorem read_select {tokens body rest : List Token} {subject : Expression}
    {arms : List (Expression × Expression)}
    (reads : readExpression tokens = some (subject, .mark ")" :: .mark "\x7b" :: body))
    (cases : readArms body.length body = some (arms, .mark "\x7d" :: rest)) (fuel : Nat) :
    readStatement (fuel + 1) (.word "switch" :: .mark "(" :: tokens) =
      some (.select subject arms, rest) := by
  simp [reads, cases]

theorem read_arm {tokens more next rest : List Token} {label value : Expression}
    {arms : List (Expression × Expression)} {fuel : Nat}
    (reads : readExpression tokens = some (label, .mark ":" :: .word "return" :: more))
    (given : readExpression more = some (value, .mark ";" :: next))
    (later : readArms fuel next = some (arms, rest)) :
    readArms (fuel + 1) (.word "case" :: tokens) = some ((label, value) :: arms, rest) := by
  simp [reads, given, later]

end Statements

/-- The depth that the reader of bodies allows is enough for a statement that is read at every
larger depth. -/
theorem read_body_cons {first : Token} {tokens rest : List Token} {statement : Statement}
    {statements : List Statement} {fuel : Nat} (depth : Nat) (enough : depth ≤ tokens.length + 1)
    (reads : ∀ fuel, readStatement (fuel + depth) (first :: tokens) = some (statement, rest))
    (more : readBody fuel rest = some statements) :
    readBody (fuel + 1) (first :: tokens) = some (statement :: statements) := by
  have whole := reads (tokens.length + 1 - depth)
  rw [Nat.sub_add_cancel enough] at whole
  simp [readBody, whole, more]

theorem read_body_nil (fuel : Nat) : readBody fuel [] = some [] := by
  cases fuel <;> rfl

theorem read_body_return {tokens : List Token} {value : Expression}
    (reads : readExpression tokens = some (value, [.mark ";"])) (fuel : Nat) :
    readBody (fuel + 1) (.word "return" :: tokens) = some [.give value] :=
  read_body_cons 1 (by omega) (read_return reads) (read_body_nil fuel)

theorem read_name_return (name : String) (plain : name ≠ "static_cast") (rest : List Token) :
    readExpression (.word name :: .mark ";" :: rest) = some (.name [name], .mark ";" :: rest) := by
  apply read_expression_of_chain 2 (by omega)
  intro fuel
  exact read_chain_operand (read_name_operand name ";" plain (by decide) fuel rest)
    (stops_semicolon 0 rest)

end EnumHeader.Cpp.Reading

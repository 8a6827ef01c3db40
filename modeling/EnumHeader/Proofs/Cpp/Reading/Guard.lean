import EnumHeader.Cpp.Guard
import EnumHeader.Proofs.Cpp.Reading.Body
import EnumHeader.Proofs.Cpp.Reading.Literal

/-!
# Reading of validity guards

The body that is laid out for a guard is read as the statements that the guard stands for.
-/

namespace EnumHeader.Cpp

set_option autoImplicit false

open Reading

namespace Guard

def literals : Guard → List Literal
  | .always | .listed => []
  | .equal value => [value]
  | .atMost max => [max]
  | .atLeast min => [min]
  | .between min max => [min, max]
  | .within mask => [mask]

def compare (operator : Operator) (literal : Literal) : Expression :=
  .binary operator (.name ["v"]) (literalExpression literal)

def searchTest : Statement :=
  .test (.binary .equal (.cast "underlying_type" (.name ["candidate"])) (.name ["v"]))
    (.give (.name ["true"]))

def statements : Guard → List Statement
  | .always => [.give (.name ["true"])]
  | .equal value => [.give (compare .equal value)]
  | .atMost max => [.give (compare .lessEqual max)]
  | .atLeast min => [.give (compare .greaterEqual min)]
  | .between min max =>
      [.give (.binary .and (compare .greaterEqual min) (compare .lessEqual max))]
  | .listed => [.each "candidate" "values" searchTest, .give (.name ["false"])]
  | .within mask =>
      [.give (.binary .equal (compare .bitOr mask) (literalExpression mask))]

end Guard

namespace Reading

theorem read_compare (rank : Nat) (operator : Operator) (binds : rank ≤ operator.rank)
    (literal : Literal) (fuel : Nat) {rest : List Token} (stops : Stops (operator.rank + 1) rest)
    (stopsAll : Stops rank rest) :
    readChain (fuel + 10) rank
        (.word "v" :: .mark operator.symbol :: (literalTokens literal ++ rest)) =
      some (Guard.compare operator literal, rest) := by
  have ends : EndsName operator.symbol := by cases operator <;> decide
  have argument := read_name_operand "v" operator.symbol (by decide) ends (fuel + 8)
    (literalTokens literal ++ rest)
  have bound := read_literal literal fuel rest
  exact read_chain_binary operator binds argument (read_chain_operand bound stops) stopsAll

theorem read_comparison_line (operator : Operator) {literal : Literal}
    (word : HasWordType literal) {start : String}
    (opening : advance .nothing start.toList =
      ([.word "return", .word "v", .mark operator.symbol], .nothing)) :
    readLines ([Step.line (start ++ literal.text ++ ";")].flatMap Step.written) =
      some [.give (Guard.compare operator literal)] := by
  have line : tokens (start ++ literal.text ++ ";") =
      .word "return" :: .word "v" :: .mark operator.symbol ::
        (literalTokens literal ++ [.mark ";"]) := by
    unfold tokens
    simp only [String.toList_append, List.append_assoc]
    rw [scan_piece opening, scan_literal word _ separate_semicolon, scan_semicolon]
    rfl
  rw [read_lines_of_line, line]
  apply read_body_return
  apply read_expression_of_chain 10 (by simp; omega)
  intro fuel
  exact read_compare 0 operator (by omega) literal fuel (stops_semicolon _ _) (stops_semicolon _ _)

theorem read_between_line {min max : Literal} (minWord : HasWordType min)
    (maxWord : HasWordType max) :
    readLines ([Step.line ("return v >= " ++ min.text ++ " && v <= " ++ max.text ++ ";")].flatMap
        Step.written) =
      some [.give (.binary .and (Guard.compare .greaterEqual min) (Guard.compare .lessEqual max))] := by
  let upper : List Token := .word "v" :: .mark "<=" :: (literalTokens max ++ [.mark ";"])
  let body : List Token :=
    .word "return" :: .word "v" :: .mark ">=" :: (literalTokens min ++ .mark "&&" :: upper)
  have opening : advance .nothing "return v >= ".toList =
      ([.word "return", .word "v", .mark ">="], .nothing) := by decide
  have middle : advance .nothing " && v <= ".toList =
      ([.mark "&&", .word "v", .mark "<="], .nothing) := by decide
  have afterMin (text : List Char) : Separate (" && v <= ".toList ++ text) :=
    separate_append (by decide) text
  have line : tokens ("return v >= " ++ min.text ++ " && v <= " ++ max.text ++ ";") = body := by
    unfold tokens
    simp only [String.toList_append, List.append_assoc]
    rw [scan_piece opening, scan_literal minWord _ (afterMin _), scan_piece middle,
      scan_literal maxWord _ separate_semicolon, scan_semicolon]
    rfl
  rw [read_lines_of_line, line]
  apply read_body_return
  apply read_expression_of_chain 14 (by simp [upper]; omega)
  intro fuel
  have stopsAnd (rest : List Token) : Stops 5 (.mark "&&" :: rest) :=
    stops_of_low_rank .and (by decide) rest
  have argument := read_name_operand "v" ">=" (by decide) (by decide) (fuel + 12)
    (literalTokens min ++ .mark "&&" :: upper)
  have least := read_chain_operand (read_literal min (fuel + 4) (.mark "&&" :: upper)) (stopsAnd _)
  have most := read_compare 2 .lessEqual (by decide) max (fuel + 1)
    (stops_semicolon 5 []) (stops_semicolon 2 [])
  -- The second comparison belongs to the conjunction, because the first one is closed before it.
  calc readChain (fuel + 14) 0 (.word "v" :: .mark ">=" :: (literalTokens min ++ .mark "&&" :: upper))
      = extendChain (fuel + 13) 0 (.name ["v"])
          (.mark ">=" :: (literalTokens min ++ .mark "&&" :: upper)) :=
        read_chain_of_operand argument
    _ = extendChain (fuel + 12) 0 (Guard.compare .greaterEqual min) (.mark "&&" :: upper) :=
        extend_chain_binary .greaterEqual (by decide) least _
    _ = extendChain (fuel + 11) 0 _ [.mark ";"] := extend_chain_binary .and (by decide) most _
    _ = some (_, [.mark ";"]) := extend_chain_stop (stops_semicolon 0 []) _ _

theorem read_within_line {mask : Literal} (word : HasWordType mask) :
    readLines ([Step.line ("return (v | " ++ mask.text ++ ") == " ++ mask.text ++ ";")].flatMap
        Step.written) =
      some [.give (.binary .equal (Guard.compare .bitOr mask) (literalExpression mask))] := by
  let right : List Token := literalTokens mask ++ [.mark ";"]
  let body : List Token :=
    .word "return" :: .mark "(" :: .word "v" :: .mark "|" ::
      (literalTokens mask ++ .mark ")" :: .mark "==" :: right)
  have opening : advance .nothing "return (v | ".toList =
      ([.word "return", .mark "(", .word "v", .mark "|"], .nothing) := by decide
  have middle : advance .nothing ") == ".toList = ([.mark ")", .mark "=="], .nothing) := by decide
  have afterMask (text : List Char) : Separate (") == ".toList ++ text) :=
    separate_append (by decide) text
  have line : tokens ("return (v | " ++ mask.text ++ ") == " ++ mask.text ++ ";") = body := by
    unfold tokens
    simp only [String.toList_append, List.append_assoc]
    rw [scan_piece opening, scan_literal word _ (afterMask _), scan_piece middle,
      scan_literal word _ separate_semicolon, scan_semicolon]
    rfl
  rw [read_lines_of_line, line]
  apply read_body_return
  apply read_expression_of_chain 13 (by simp [right]; omega)
  intro fuel
  have joined := read_parentheses (read_compare 0 .bitOr (by decide) mask (fuel + 1)
    (stops_parenthesis 3 (.mark "==" :: right)) (stops_parenthesis 0 (.mark "==" :: right)))
  have bound := read_literal mask (fuel + 3) [.mark ";"]
  exact read_chain_binary .equal (by decide) joined
    (read_chain_operand bound (stops_semicolon 4 [])) (stops_semicolon 0 [])

theorem read_search :
    readLines (Guard.listed.steps.flatMap Step.written) = some Guard.listed.statements := by
  let last : List Token := [.word "return", .word "false", .mark ";"]
  let inner : List Token :=
    .word "return" :: .word "true" :: .mark ";" :: .mark "\x7d" :: .mark "\x7d" :: last
  let condition : List Token :=
    [.word "static_cast", .mark "<", .word "underlying_type", .mark ">", .mark "(",
      .word "candidate", .mark ")", .mark "==", .word "v", .mark ")", .mark "\x7b"] ++ inner
  let head : List Token :=
    [.mark "(", .word "const", .word "Value", .word "candidate", .mark ":", .word "values",
      .mark ")", .mark "\x7b", .word "if", .mark "("] ++ condition
  have same : (Guard.listed.steps.flatMap Step.written).flatMap tokens = .word "for" :: head := by
    decide
  have loop : readLoopHead head =
      some ("candidate", "values", .mark "\x7b" :: .word "if" :: .mark "(" :: condition) := by
    simp [head, readLoopHead, expect, readWord]
  have compared : readExpression condition =
      some (.binary .equal (.cast "underlying_type" (.name ["candidate"])) (.name ["v"]),
        .mark ")" :: .mark "\x7b" :: inner) := by
    apply read_expression_of_chain 4 (by simp [condition, inner, last])
    intro fuel
    let opened : List Token := .mark "\x7b" :: inner
    have candidate := read_name_operand "candidate" ")" (by decide) (by decide) fuel
      (.mark "==" :: .word "v" :: .mark ")" :: opened)
    have converted := read_static_cast "underlying_type"
      (read_chain_operand candidate (stops_parenthesis 0 _))
    have argument := read_name_operand "v" ")" (by decide) (by decide) fuel opened
    exact read_chain_binary .equal (by decide) converted
      (read_chain_operand argument (stops_parenthesis 4 opened)) (stops_parenthesis 0 opened)
  rw [read_lines_of_steps same]
  apply read_body_cons 3 (by simp [head]) ?_
    (read_body_return (read_name_return "false" (by decide) []) _)
  intro fuel
  have found := read_return
    (read_name_return "true" (by decide) (.mark "\x7d" :: .mark "\x7d" :: last)) fuel
  exact read_each loop (read_test compared found)

theorem read_guard {guard : Guard} (words : ∀ literal ∈ guard.literals, HasWordType literal) :
    readLines (guard.steps.flatMap Step.written) = some guard.statements := by
  cases guard with
  | always =>
      have same : (Guard.always.steps.flatMap Step.written).flatMap tokens =
          [.word "return", .word "true", .mark ";"] := by decide
      rw [read_lines_of_steps same]
      exact read_body_return (read_name_return "true" (by decide) []) 2
  | equal value =>
      exact read_comparison_line .equal (words value (by simp [Guard.literals]))
        (by decide)
  | atMost max =>
      exact read_comparison_line .lessEqual (words max (by simp [Guard.literals]))
        (by decide)
  | atLeast min =>
      exact read_comparison_line .greaterEqual (words min (by simp [Guard.literals]))
        (by decide)
  | between min max =>
      exact read_between_line (words min (by simp [Guard.literals]))
        (words max (by simp [Guard.literals]))
  | listed => exact read_search
  | within mask => exact read_within_line (words mask (by simp [Guard.literals]))

end Reading

end EnumHeader.Cpp

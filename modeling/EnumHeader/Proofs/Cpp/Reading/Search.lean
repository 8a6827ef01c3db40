import EnumHeader.Proofs.Cpp.Reading.Body
import EnumHeader.Proofs.Cpp.Reading.Name
import EnumHeader.Proofs.Cpp.Reading.Text

/-!
# Reading of name searches

The body that is laid out for the search of a name is read as the statements that it stands for: a
comparison with the only name, or a loop over the table of names.
-/

namespace EnumHeader.Cpp

set_option autoImplicit false

open Reading

namespace NameTable

variable (table : NameTable)

def rowTest : Statement :=
  .test (.binary .equal (.field ["entry"] "name") (.name ["s"]))
    (.give (.construct [table.owner] (.field ["entry"] "value")))

def onlyTest (name : String) : Statement :=
  .test (.binary .equal (.name ["s"]) (textExpression table.stringType name))
    (.give (.construct [table.owner] (.name ["Value", name])))

def statements : List Statement :=
  (match table.names with
    | [name] => table.onlyTest name
    | _ => .each "entry" "names" table.rowTest) ::
    [.give (.name ["std", "nullopt"])]

end NameTable

namespace Reading

def nothingTokens : List Token :=
  [.word "return", .word "std", .mark "::", .word "nullopt", .mark ";"]

theorem read_nothing (fuel : Nat) :
    readBody (fuel + 1) nothingTokens = some [.give (.name ["std", "nullopt"])] := by
  apply read_body_return
  apply read_expression_of_chain 2 (by simp)
  intro fuel
  exact read_chain_operand
    (read_qualified_operand "std" "nullopt" ";" (by decide) (by decide) fuel [])
    (stops_semicolon 0 [])

def onlyTokens (table : NameTable) (name : String) : List Token :=
  .word "if" :: .mark "(" :: .word "s" :: .mark "==" ::
    .quote table.stringType (escaped name.toList) :: .mark ")" :: .mark "\x7b" ::
    .word "return" :: .word table.owner :: .mark "(" ::
      (constantTokens name ++ .mark ")" :: .mark ";" :: .mark "\x7d" :: nothingTokens)

def loopTokens (table : NameTable) : List Token :=
  [.word "for", .mark "(", .word "const", .word "NameEntry", .mark "&", .word "entry", .mark ":",
    .word "names", .mark ")", .mark "\x7b", .word "if", .mark "(", .word "entry", .mark ".",
    .word "name", .mark "==", .word "s", .mark ")", .mark "\x7b", .word "return",
    .word table.owner, .mark "(", .word "entry", .mark ".", .word "value", .mark ")", .mark ";",
    .mark "\x7d", .mark "\x7d"] ++ nothingTokens

section Search

variable {table : NameTable} (owner : IsName table.owner)
include owner

theorem tokens_of_constant_return {name : String} (word : IsWord name) :
    tokens ("return " ++ table.owner ++ "(Value::" ++ name ++ ");") =
      .word "return" :: .word table.owner :: .mark "(" ::
        (constantTokens name ++ [.mark ")", .mark ";"]) := by
  have parenthesis : advance .nothing "(".toList = ([.mark "("], .nothing) := by decide
  have ending : scan .nothing ");".toList = [.mark ")", .mark ";"] := by decide
  have split : "(Value::".toList = "(".toList ++ "Value::".toList := by decide
  have afterOwner (rest : List Char) : Separate ("(".toList ++ rest) :=
    separate_append (by decide) rest
  unfold tokens
  simp only [String.toList_append, split, List.append_assoc]
  rw [scan_piece advance_return, scan_name owner.word _ (afterOwner _), scan_piece parenthesis,
    scan_constant word _ (separate_of_separates (by decide)), ending]
  simp only [List.cons_append, List.nil_append]

theorem tokens_of_field_return :
    tokens ("return " ++ table.owner ++ "(entry.value);") =
      [.word "return", .word table.owner, .mark "(", .word "entry", .mark ".", .word "value",
        .mark ")", .mark ";"] := by
  have ending : scan .nothing "(entry.value);".toList =
      [.mark "(", .word "entry", .mark ".", .word "value", .mark ")", .mark ";"] := by decide
  unfold tokens
  simp only [String.toList_append, List.append_assoc]
  rw [scan_piece advance_return, scan_name owner.word _ (separate_of_separates (by decide)), ending]
  simp only [List.cons_append, List.nil_append]

theorem read_wrapping {fuel : Nat} {inside rest : List Token} {argument : Expression}
    (reads : ∀ fuel, readOperand (fuel + 1) (inside ++ .mark ")" :: .mark ";" :: rest) =
      some (argument, .mark ")" :: .mark ";" :: rest)) :
    readStatement (fuel + 1)
        (.word "return" :: .word table.owner :: .mark "(" ::
          (inside ++ .mark ")" :: .mark ";" :: rest)) =
      some (.give (.construct [table.owner] argument), rest) := by
  have given : ∀ more, inside ++ .mark ")" :: .mark ";" :: rest ≠ .mark ")" :: more := by
    intro more same
    have none := reads 0
    rw [same] at none
    simp [readOperand] at none
  apply read_return
  apply read_expression_of_chain 4 (by omega)
  intro fuel
  have wrapped := read_construction table.owner owner.plain given
    (read_chain_operand (reads fuel) (stops_parenthesis 0 _))
  exact read_chain_operand wrapped (stops_semicolon 0 rest)

theorem read_only {name : String} {fuel : Nat} :
    readBody (fuel + 2) (onlyTokens table name) =
      some [table.onlyTest name, .give (.name ["std", "nullopt"])] := by
  let block : List Token :=
    .mark "\x7b" :: .word "return" :: .word table.owner :: .mark "(" ::
      (constantTokens name ++ .mark ")" :: .mark ";" :: .mark "\x7d" :: nothingTokens)
  have condition : readExpression
      (.word "s" :: .mark "==" :: .quote table.stringType (escaped name.toList) :: .mark ")" ::
        block) =
      some (.binary .equal (.name ["s"]) (textExpression table.stringType name),
        .mark ")" :: block) := by
    apply read_expression_of_chain 4 (by omega)
    intro fuel
    have argument := read_name_operand "s" "==" (by decide) (by decide) (fuel + 2)
      (.quote table.stringType (escaped name.toList) :: .mark ")" :: block)
    have text := read_text_operand table.stringType name (fuel + 1) (.mark ")" :: block)
    exact read_chain_binary .equal (by decide) argument
      (read_chain_operand text (stops_parenthesis 4 block)) (stops_parenthesis 0 block)
  apply read_body_cons 2 (by simp) ?_ (read_nothing fuel)
  intro fuel
  exact read_test condition (read_wrapping owner fun fuel =>
    read_constant name ")" (by decide) fuel (.mark ";" :: .mark "\x7d" :: nothingTokens))

theorem read_rows_loop (fuel : Nat) :
    readBody (fuel + 2) (loopTokens table) =
      some [.each "entry" "names" table.rowTest, .give (.name ["std", "nullopt"])] := by
  let returned : List Token :=
    .word "return" :: .word table.owner :: .mark "(" ::
      ([Token.word "entry", .mark ".", .word "value"] ++
        .mark ")" :: .mark ";" :: .mark "\x7d" :: .mark "\x7d" :: nothingTokens)
  let block : List Token := .mark "\x7b" :: returned
  let condition : List Token :=
    .word "entry" :: .mark "." :: .word "name" :: .mark "==" :: .word "s" :: .mark ")" :: block
  have loop : readLoopHead
      (.mark "(" :: .word "const" :: .word "NameEntry" :: .mark "&" :: .word "entry" :: .mark ":" ::
        .word "names" :: .mark ")" :: .mark "\x7b" :: .word "if" :: .mark "(" :: condition) =
      some ("entry", "names", .mark "\x7b" :: .word "if" :: .mark "(" :: condition) := by
    simp [readLoopHead, expect, readWord]
  have compared : readExpression condition =
      some (.binary .equal (.field ["entry"] "name") (.name ["s"]), .mark ")" :: block) := by
    apply read_expression_of_chain 4 (by omega)
    intro fuel
    have field := read_field_operand "entry" "name" (by decide) (fuel + 2)
      (.mark "==" :: .word "s" :: .mark ")" :: block)
    have argument := read_name_operand "s" ")" (by decide) (by decide) (fuel + 1) block
    exact read_chain_binary .equal (by decide) field
      (read_chain_operand argument (stops_parenthesis 4 block)) (stops_parenthesis 0 block)
  apply read_body_cons 3 (by simp) ?_ (read_nothing fuel)
  intro fuel
  exact read_each loop (read_test compared (read_wrapping owner fun fuel =>
    read_field_operand "entry" "value" (by decide) fuel _))

theorem tokens_of_only {name : String} (only : table.names = [name]) (word : IsWord name) :
    (table.searchSteps.flatMap Step.written).flatMap tokens = onlyTokens table name := by
  have opening : advance .nothing "if (s == ".toList =
      ([.word "if", .mark "(", .word "s", .mark "=="], .nothing) := by decide
  have ending : scan .nothing ")".toList = [.mark ")"] := by decide
  have head : tokens ("if (s == " ++ stringLiteral table.stringType name ++ ")") =
      [.word "if", .mark "(", .word "s", .mark "==",
        .quote table.stringType (escaped name.toList), .mark ")"] := by
    unfold tokens
    simp only [String.toList_append, List.append_assoc]
    rw [scan_piece opening, scan_string_literal, ending]
    simp only [List.cons_append, List.nil_append]
  have last : tokens "return std::nullopt;" = nothingTokens := by decide
  simp [NameTable.searchSteps, only, Step.written, head, tokens_of_braces, last,
    tokens_of_constant_return owner word, onlyTokens]

theorem tokens_of_loop (several : ∀ name, table.names ≠ [name]) :
    (table.searchSteps.flatMap Step.written).flatMap tokens = loopTokens table := by
  have loop : tokens "for (const NameEntry& entry : names)" =
      [.word "for", .mark "(", .word "const", .word "NameEntry", .mark "&", .word "entry",
        .mark ":", .word "names", .mark ")"] := by decide
  have condition : tokens "if (entry.name == s)" =
      [.word "if", .mark "(", .word "entry", .mark ".", .word "name", .mark "==", .word "s",
        .mark ")"] := by decide
  have last : tokens "return std::nullopt;" = nothingTokens := by decide
  unfold NameTable.searchSteps
  split
  next name only => exact absurd only (several name)
  next =>
    simp [Step.written, loop, condition, tokens_of_braces, last, tokens_of_field_return owner,
      loopTokens]

theorem read_search_steps (words : ∀ name ∈ table.names, IsWord name) :
    readLines (table.searchSteps.flatMap Step.written) = some table.statements := by
  by_cases only : ∃ name, table.names = [name]
  · obtain ⟨name, only⟩ := only
    have said : table.statements = [table.onlyTest name, .give (.name ["std", "nullopt"])] := by
      simp [NameTable.statements, only]
    have body := tokens_of_only owner only (words name (by simp [only]))
    rw [read_lines_of_steps body, said]
    exact read_only owner
  · have several : ∀ name, table.names ≠ [name] := fun name same => only ⟨name, same⟩
    have said : table.statements =
        [.each "entry" "names" table.rowTest, .give (.name ["std", "nullopt"])] := by
      unfold NameTable.statements
      split
      next name same => exact absurd same (several name)
      next => rfl
    rw [read_lines_of_steps (tokens_of_loop owner several), said]
    exact read_rows_loop owner _

end Search

end Reading

end EnumHeader.Cpp

import EnumHeader.Proofs.Cpp.Reading.Body
import EnumHeader.Proofs.Cpp.Reading.Name
import EnumHeader.Proofs.Cpp.Reading.Text
import Mathlib.Data.List.Basic

/-!
# Reading of lookups

The bodies that are laid out for a lookup of strings and for the search of a table of names are read
as the statements that they stand for, the form for a single entry included.
-/

namespace EnumHeader.Cpp

set_option autoImplicit false

open Reading

def viewName : StringType → String
  | .narrow => "string_view"
  | .wide => "wstring_view"

namespace Lookup

variable (lookup : Lookup)

def case (arm : Arm) : Expression × Expression :=
  (labelExpression lookup.kind arm.entry, textExpression lookup.stringType arm.text)

def statements : List Statement :=
  (match lookup.arms with
    | [arm] =>
        .test (.binary .equal (.name ["value_"]) (lookup.case arm).1) (.give (lookup.case arm).2)
    | arms => .select (.name ["value_"]) (arms.map lookup.case)) ::
    [.give (.empty ["std", viewName lookup.stringType])]

end Lookup

namespace Reading

theorem tokens_of_text_return (stringType : StringType) (text : String) :
    tokens ("return " ++ stringLiteral stringType text ++ ";") =
      [.word "return", .quote stringType (escaped text.toList), .mark ";"] := by
  unfold tokens
  simp only [String.toList_append, List.append_assoc]
  rw [scan_piece advance_return, scan_string_literal, scan_semicolon]
  simp only [List.cons_append, List.nil_append]

theorem read_text (stringType : StringType) (text : String) (rest : List Token) :
    readExpression (.quote stringType (escaped text.toList) :: .mark ";" :: rest) =
      some (textExpression stringType text, .mark ";" :: rest) := by
  apply read_expression_of_chain 2 (by omega)
  intro fuel
  exact read_chain_operand (read_text_operand stringType text fuel _) (stops_semicolon 0 rest)

section Lookup

variable (lookup : Lookup)

def armTokens (arm : Arm) : List Token :=
  .word "case" :: (labelTokens lookup.kind arm.entry ++
    [.mark ":", .word "return", .quote lookup.stringType (escaped arm.text.toList), .mark ";"])

theorem tokens_of_arm {arm : Arm} (word : IsWord arm.entry) :
    ((lookup.caseSteps arm).flatMap Step.written).flatMap tokens = armTokens lookup arm := by
  have opening : advance .nothing "case ".toList = ([.word "case"], .nothing) := by decide
  have ending : scan .nothing ":".toList = [.mark ":"] := by decide
  have label : tokens ("case " ++ caseLabel lookup.kind arm.entry ++ ":") =
      .word "case" :: (labelTokens lookup.kind arm.entry ++ [.mark ":"]) := by
    unfold tokens
    simp only [String.toList_append, List.append_assoc]
    rw [scan_piece opening, scan_label lookup.kind word _ (separate_of_separates (by decide)),
      ending]
    simp only [List.cons_append, List.nil_append]
  simp [Lookup.caseSteps, Lookup.result, Step.written, label, tokens_of_text_return, armTokens]

theorem read_cases (arms : List Arm) (rest : List Token) {fuel : Nat} (enough : arms.length < fuel) :
    readArms fuel (arms.flatMap (armTokens lookup) ++ .mark "\x7d" :: rest) =
      some (arms.map lookup.case, .mark "\x7d" :: rest) := by
  induction arms generalizing fuel with
  | nil =>
      obtain ⟨fuel, rfl⟩ := Nat.exists_eq_add_of_lt enough
      simp [readArms, expect]
  | cons arm arms ih =>
      obtain ⟨fuel, rfl⟩ : ∃ less, fuel = less + 1 := ⟨fuel - 1, by simp at enough; omega⟩
      have later := ih (show arms.length < fuel by simpa using enough)
      let next : List Token := arms.flatMap (armTokens lookup) ++ .mark "\x7d" :: rest
      let given : List Token := .quote lookup.stringType (escaped arm.text.toList) :: .mark ";" :: next
      have label : readExpression
          (labelTokens lookup.kind arm.entry ++ .mark ":" :: .word "return" :: given) =
            some ((lookup.case arm).1, .mark ":" :: .word "return" :: given) := by
        apply read_expression_of_chain 4 (by omega)
        intro fuel
        exact read_chain_operand (read_label lookup.kind arm.entry ":" (by decide) fuel _)
          (stops_of_no_operator (by decide) 0 _)
      have split : (arm :: arms).flatMap (armTokens lookup) ++ .mark "\x7d" :: rest =
          .word "case" :: (labelTokens lookup.kind arm.entry ++
            .mark ":" :: .word "return" :: given) := by
        simp [armTokens, given, next]
      rw [split, List.map_cons]
      exact read_arm label (read_text lookup.stringType arm.text next) later

def lastTokens : List Token :=
  [.word "return", .word "std", .mark "::", .word (viewName lookup.stringType), .mark "(",
    .mark ")", .mark ";"]

theorem tokens_of_last :
    tokens ("return " ++ viewType lookup.stringType ++ "();") = lastTokens lookup := by
  unfold lastTokens
  cases lookup.stringType <;> decide

theorem read_last (fuel : Nat) :
    readBody (fuel + 1) (lastTokens lookup) =
      some [.give (.empty ["std", viewName lookup.stringType])] := by
  apply read_body_return
  apply read_expression_of_chain 2 (by simp)
  intro fuel
  exact read_chain_operand
    (read_empty_operand "std" (viewName lookup.stringType) (by decide) fuel [.mark ";"])
    (stops_semicolon 0 [])

theorem length_le_cases (arms : List Arm) :
    arms.length ≤ (arms.flatMap (armTokens lookup)).length := by
  induction arms with
  | nil => simp
  | cons arm arms ih =>
      simp only [List.flatMap_cons, List.length_append, List.length_cons, armTokens]
      omega

def switchTokens : List Token :=
  .word "switch" :: .mark "(" :: .word "value_" :: .mark ")" :: .mark "\x7b" ::
    (lookup.arms.flatMap (armTokens lookup) ++ .mark "\x7d" :: lastTokens lookup)

theorem read_switch (fuel : Nat) :
    readBody (fuel + 2) (switchTokens lookup) =
      some
        [.select (.name ["value_"]) (lookup.arms.map lookup.case),
          .give (.empty ["std", viewName lookup.stringType])] := by
  have subject (rest : List Token) :
      readExpression (.word "value_" :: .mark ")" :: rest) =
        some (.name ["value_"], .mark ")" :: rest) := by
    apply read_expression_of_chain 2 (by omega)
    intro fuel
    exact read_chain_operand (read_name_operand "value_" ")" (by decide) (by decide) fuel rest)
      (stops_parenthesis 0 rest)
  have enough : lookup.arms.length <
      (lookup.arms.flatMap (armTokens lookup) ++ .mark "\x7d" :: lastTokens lookup).length := by
    have atLeast := length_le_cases lookup lookup.arms
    simp only [List.length_append, List.length_cons]
    omega
  exact read_body_cons 1 (by omega)
    (read_select (subject _) (read_cases lookup lookup.arms (lastTokens lookup) enough))
    (read_last lookup fuel)

def singleTokens (arm : Arm) : List Token :=
  .word "if" :: .mark "(" :: .word "value_" :: .mark "==" ::
    (labelTokens lookup.kind arm.entry ++ .mark ")" :: .mark "\x7b" :: .word "return" ::
      .quote lookup.stringType (escaped arm.text.toList) :: .mark ";" :: .mark "\x7d" ::
        lastTokens lookup)

theorem read_single (arm : Arm) (fuel : Nat) :
    readBody (fuel + 2) (singleTokens lookup arm) =
      some
        [.test (.binary .equal (.name ["value_"]) (lookup.case arm).1) (.give (lookup.case arm).2),
          .give (.empty ["std", viewName lookup.stringType])] := by
  let block : List Token :=
    .mark "\x7b" :: .word "return" :: .quote lookup.stringType (escaped arm.text.toList) ::
      .mark ";" :: .mark "\x7d" :: lastTokens lookup
  have condition : readExpression
      (.word "value_" :: .mark "==" :: (labelTokens lookup.kind arm.entry ++ .mark ")" :: block)) =
        some (.binary .equal (.name ["value_"]) (lookup.case arm).1, .mark ")" :: block) := by
    apply read_expression_of_chain 6 (by simp; omega)
    intro fuel
    have held := read_name_operand "value_" "==" (by decide) (by decide) (fuel + 4)
      (labelTokens lookup.kind arm.entry ++ .mark ")" :: block)
    have label := read_label lookup.kind arm.entry ")" (by decide) fuel block
    exact read_chain_binary .equal (by decide) held
      (read_chain_operand label (stops_parenthesis 4 block)) (stops_parenthesis 0 block)
  apply read_body_cons 2 (by simp) ?_ (read_last lookup fuel)
  intro fuel
  exact read_test condition
    (read_return (read_text lookup.stringType arm.text (.mark "\x7d" :: lastTokens lookup)) fuel)

variable {lookup}

theorem tokens_of_single {arm : Arm} (single : lookup.arms = [arm]) (word : IsWord arm.entry) :
    (lookup.steps.flatMap Step.written).flatMap tokens = singleTokens lookup arm := by
  have opening : advance .nothing "if (value_ == ".toList =
      ([.word "if", .mark "(", .word "value_", .mark "=="], .nothing) := by decide
  have ending : scan .nothing ")".toList = [.mark ")"] := by decide
  have head : tokens ("if (value_ == " ++ caseLabel lookup.kind arm.entry ++ ")") =
      .word "if" :: .mark "(" :: .word "value_" :: .mark "==" ::
        (labelTokens lookup.kind arm.entry ++ [.mark ")"]) := by
    unfold tokens
    simp only [String.toList_append, List.append_assoc]
    rw [scan_piece opening, scan_label lookup.kind word _ (separate_of_separates (by decide)),
      ending]
    simp only [List.cons_append, List.nil_append]
  simp [Lookup.steps, single, Lookup.result, Step.written, head, tokens_of_braces,
    tokens_of_text_return, tokens_of_last, singleTokens]

theorem tokens_of_switch (several : ∀ arm, lookup.arms ≠ [arm])
    (words : ∀ arm ∈ lookup.arms, IsWord arm.entry) :
    (lookup.steps.flatMap Step.written).flatMap tokens = switchTokens lookup := by
  have head : tokens "switch (value_)" = [.word "switch", .mark "(", .word "value_", .mark ")"] := by
    decide
  have cases : ((lookup.arms.flatMap lookup.caseSteps).flatMap Step.written).flatMap tokens =
      lookup.arms.flatMap (armTokens lookup) := by
    rw [List.flatMap_assoc, List.flatMap_assoc]
    apply List.flatMap_congr
    intro arm member
    rw [← List.flatMap_assoc]
    exact tokens_of_arm lookup (words arm member)
  unfold Lookup.steps
  split
  next arm single => exact absurd single (several arm)
  next => simp [Step.written, head, tokens_of_braces, cases, tokens_of_last, switchTokens]

theorem read_lookup (words : ∀ arm ∈ lookup.arms, IsWord arm.entry) :
    readLines (lookup.steps.flatMap Step.written) = some lookup.statements := by
  by_cases single : ∃ arm, lookup.arms = [arm]
  · obtain ⟨arm, single⟩ := single
    have said : lookup.statements =
        [.test (.binary .equal (.name ["value_"]) (lookup.case arm).1) (.give (lookup.case arm).2),
          .give (.empty ["std", viewName lookup.stringType])] := by
      simp [Lookup.statements, single]
    have body := tokens_of_single single (words arm (by simp [single]))
    rw [read_lines_of_steps body, said]
    exact read_single lookup arm _
  · have several : ∀ arm, lookup.arms ≠ [arm] := fun arm same => single ⟨arm, same⟩
    have said : lookup.statements =
        [.select (.name ["value_"]) (lookup.arms.map lookup.case),
          .give (.empty ["std", viewName lookup.stringType])] := by
      unfold Lookup.statements
      split
      next arm same => exact absurd same (several arm)
      next => rfl
    rw [read_lines_of_steps (tokens_of_switch several words), said]
    exact read_switch lookup _

end Lookup

end Reading

end EnumHeader.Cpp

import EnumHeader.Proofs.Cpp.Nesting.Conditional
import EnumHeader.Proofs.Cpp.Reading.Token
import EnumHeader.Text.Numeral

/-!
# Preprocessing

What a preprocessor keeps of a text, line by line. It takes one branch of a conditional block at
most, skips what it does not take with all blocks inside, and remembers the macros that the taken
lines define. Only the directives and questions that headers use are known, and where a compiler
would stop there is no result. Spliced lines and block comments are not treated.
-/

namespace EnumHeader.Cpp.Preprocessing

set_option autoImplicit false

open Nesting (Conditional conditional? directiveName isIndentChar nest nestLine nest_cons)
open Reading (Token)

structure Compiler where
  asks : Bool
  knows : String → Bool

structure Macro where
  name : String
  replacement : List Token
  deriving Repr, DecidableEq

inductive Choice where
  /-- No branch has been taken so far. -/
  | waiting
  /-- The present branch is taken. -/
  | taken
  /-- No further branch is taken. -/
  | settled
  deriving Repr, DecidableEq

/-- The macros defined so far and the blocks that are open, the latest of each first. -/
structure Stage where
  macros : List Macro
  choices : List Choice
  deriving Repr, DecidableEq

def Stage.isActive (stage : Stage) : Bool :=
  stage.choices.all (· = .taken)

section Questions

def attributeTest : String :=
  "__has_cpp_attribute"

variable (compiler : Compiler) (macros : List Macro)

/-- The test for attributes counts as a macro of compilers that have it. -/
def isDefined (name : String) : Bool :=
  if name = attributeTest then compiler.asks else macros.any (·.name = name)

/-- The number that a name stands for in a question. A name that is no macro is zero. -/
def valueOf (name : String) : Option Nat :=
  match macros.find? (·.name = name) with
  | none => some 0
  | some ⟨_, [.number digits]⟩ => Text.readDigits 10 digits
  | some _ => none

def ask (question name : String) : Option Bool :=
  if question = "defined" then some (isDefined compiler macros name)
  else if question = attributeTest ∧ compiler.asks = true then some (compiler.knows name)
  else none

/-- The answer to the questions that headers ask: one about a name, its opposite, and whether a name
stands for another number than this. -/
def answer : List Token → Option Bool
  | [.word question, .mark "(", .word name, .mark ")"] => ask compiler macros question name
  | [.mark "!", .word question, .mark "(", .word name, .mark ")"] =>
      (ask compiler macros question name).map (!·)
  | [.word name, .mark "!=", .number digits] => do
      let value ← valueOf macros name
      let other ← Text.readDigits 10 digits
      some (value != other)
  | _ => none

def directiveArguments (line : List Char) : List Token :=
  match line.dropWhile isIndentChar with
  | '#' :: rest => Reading.scan .nothing ((rest.dropWhile isIndentChar).dropWhile Char.isAlpha)
  | _ => []

def holds (line : List Char) : Option Bool :=
  match String.ofList (directiveName line), directiveArguments line with
  | "ifdef", [.word name] => some (isDefined compiler macros name)
  | "ifndef", [.word name] => some (!isDefined compiler macros name)
  | "else", [] => some true
  | "if", question => answer compiler macros question
  | "elif", question => answer compiler macros question
  | _, _ => none

end Questions

section Lines

variable (compiler : Compiler)

def Choice.next (holds : Bool) : Choice :=
  if holds then .taken else .waiting

/-- The open blocks after a conditional directive. A question is asked only where the answer makes a
difference: a block inside of what is skipped is settled from the start. -/
def Stage.turn (stage : Stage) (line : List Char) (conditional : Conditional) :
    Option (List Choice) :=
  match conditional, stage.choices with
  | .opening, choices =>
      if stage.isActive then
        (holds compiler stage.macros line).map fun taken => .next taken :: choices
      else some (.settled :: choices)
  | .branch, .waiting :: around =>
      (holds compiler stage.macros line).map fun taken => .next taken :: around
  | .branch, _ :: around => some (.settled :: around)
  | .closing, _ :: around => some around
  | _, [] => none

/-- What an active line does unless it is a conditional directive. An active error stops. -/
def Stage.perform (stage : Stage) (line : List Char) : Option Stage :=
  match String.ofList (directiveName line), directiveArguments line with
  | "", _ => some stage
  | "define", .word name :: replacement =>
      some { stage with macros := ⟨name, replacement⟩ :: stage.macros }
  | _, _ => none

def take (stage : Stage) (line : List Char) : Option (Stage × List (List Char)) :=
  match conditional? line with
  | some conditional =>
      (stage.turn compiler line conditional).map fun choices => ({ stage with choices }, [])
  | none =>
      if stage.isActive then (stage.perform line).map fun next => (next, [line])
      else some (stage, [])

def process : Stage → List (List Char) → Option (Stage × List (List Char))
  | stage, [] => some (stage, [])
  | stage, line :: rest => do
      let (next, kept) ← take compiler stage line
      let (last, later) ← process next rest
      some (last, kept ++ later)

variable {compiler}

theorem process_cons {stage next last : Stage} {line : List Char} {rest kept later : List (List Char)}
    (first : take compiler stage line = some (next, kept))
    (others : process compiler next rest = some (last, later)) :
    process compiler stage (line :: rest) = some (last, kept ++ later) := by
  simp [process, first, others]

theorem process_append {stage middle last : Stage} {first second kept later : List (List Char)}
    (left : process compiler stage first = some (middle, kept))
    (right : process compiler middle second = some (last, later)) :
    process compiler stage (first ++ second) = some (last, kept ++ later) := by
  induction first generalizing stage kept with
  | nil =>
      obtain ⟨rfl, rfl⟩ := Prod.mk.inj (Option.some.inj left)
      exact right
  | cons line rest ih =>
      simp only [process, Option.bind_eq_bind, Option.bind_eq_some_iff, Prod.exists,
        Option.some.injEq, Prod.mk.injEq] at left
      obtain ⟨next, keptLine, taken, last', keptRest, processed, rfl, rfl⟩ := left
      rw [List.cons_append, List.append_assoc]
      exact process_cons taken (ih processed)

/-- What is kept of some lines: no error, since an active one stops. -/
structure Kept (lines kept : List (List Char)) : Prop where
  sublist : kept.Sublist lines
  silent : ∀ line ∈ kept, String.ofList (directiveName line) ≠ "error"

theorem Kept.nothing (lines : List (List Char)) : Kept lines [] :=
  ⟨List.nil_sublist _, nofun⟩

theorem take_kept {stage next : Stage} {line : List Char} {kept : List (List Char)}
    (taken : take compiler stage line = some (next, kept)) : Kept [line] kept := by
  unfold take at taken
  split at taken
  next =>
    obtain ⟨_, -, same⟩ := Option.map_eq_some_iff.1 taken
    obtain ⟨-, rfl⟩ := Prod.mk.inj same
    exact .nothing _
  next =>
    split at taken
    next =>
      obtain ⟨_, performed, same⟩ := Option.map_eq_some_iff.1 taken
      obtain ⟨-, rfl⟩ := Prod.mk.inj same
      refine ⟨.refl _, ?_⟩
      simp only [List.forall_mem_singleton]
      intro named
      rw [Stage.perform, named] at performed
      cases performed
    next =>
      obtain ⟨-, rfl⟩ := Prod.mk.inj (Option.some.inj taken)
      exact .nothing _

theorem process_kept {stage last : Stage} {lines kept : List (List Char)}
    (processed : process compiler stage lines = some (last, kept)) : Kept lines kept := by
  induction lines generalizing stage kept with
  | nil =>
      obtain ⟨-, rfl⟩ := Prod.mk.inj (Option.some.inj processed)
      exact .nothing _
  | cons line rest ih =>
      simp only [process, Option.bind_eq_bind, Option.bind_eq_some_iff, Prod.exists,
        Option.some.injEq, Prod.mk.injEq] at processed
      obtain ⟨next, keptLine, taken, last', keptRest, later, rfl, rfl⟩ := processed
      have first := take_kept taken
      have others := ih later
      exact ⟨first.sublist.append others.sublist,
        List.forall_mem_append.2 ⟨first.silent, others.silent⟩⟩

/-- Blocks that open and close inside of what is skipped change nothing. -/
theorem process_skipped {macros : List Macro} {around : List Choice}
    (skipped : around.all (· = .taken) = false) {before after : Nat} {lines : List (List Char)}
    (nested : nest before lines = some after) :
    process compiler ⟨macros, List.replicate before .settled ++ around⟩ lines =
      some (⟨macros, List.replicate after .settled ++ around⟩, []) := by
  -- by induction on the lines: the blocks opened by them are settled, whatever their questions
  induction lines generalizing before with
  | nil =>
      obtain rfl : before = after := Option.some.inj nested
      rfl
  | cons line rest ih =>
      rw [nest_cons, Option.bind_eq_some_iff] at nested
      obtain ⟨next, stepped, later⟩ := nested
      have inactive : Stage.isActive ⟨macros, List.replicate before .settled ++ around⟩ = false := by
        simp only [Stage.isActive, List.all_append, skipped, Bool.and_false]
      have taken : take compiler ⟨macros, List.replicate before .settled ++ around⟩ line =
          some (⟨macros, List.replicate next .settled ++ around⟩, []) := by
        unfold nestLine at stepped
        unfold take
        cases found : conditional? line with
        | none =>
            simp only [found, Option.some.injEq] at stepped
            subst stepped
            simp [inactive]
        | some conditional =>
            simp only [found] at stepped
            cases conditional with
            | opening =>
                obtain rfl : before + 1 = next := Option.some.inj stepped
                simp [Stage.turn, inactive, List.replicate_succ]
            | branch =>
                cases before with
                | zero => cases stepped
                | succ depth =>
                    obtain rfl : depth + 1 = next := Option.some.inj stepped
                    simp [Stage.turn, List.replicate_succ]
            | closing =>
                cases before with
                | zero => cases stepped
                | succ depth =>
                    obtain rfl : depth = next := Option.some.inj stepped
                    simp [Stage.turn, List.replicate_succ]
      exact process_cons taken (ih later)

theorem process_plain {stage : Stage} (active : stage.isActive = true) {lines : List (List Char)}
    (plain : ∀ line ∈ lines, directiveName line = []) :
    process compiler stage lines = some (stage, lines) := by
  induction lines with
  | nil => rfl
  | cons line rest ih =>
      simp only [List.forall_mem_cons] at plain
      have quiet : conditional? line = none := by
        unfold conditional?
        rw [plain.1]
        decide
      have performed : stage.perform line = some stage := by
        unfold Stage.perform
        rw [plain.1]
        rfl
      have taken : take compiler stage line = some (stage, [line]) := by
        unfold take
        simp [quiet, active, performed]
      exact process_cons taken (ih plain.2)

end Lines

end EnumHeader.Cpp.Preprocessing

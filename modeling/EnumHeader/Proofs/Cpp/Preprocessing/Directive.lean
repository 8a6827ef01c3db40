import EnumHeader.Proofs.Cpp.Preprocessing.Run
import EnumHeader.Proofs.Cpp.Reading.Number

/-!
# Preprocessing directives

What each directive of a header does when a preprocessor comes to its line: the question that a
conditional directive asks, the macro that a definition adds, and where an error stops.
-/

namespace EnumHeader.Cpp.Preprocessing

set_option autoImplicit false

open Nesting (conditional? conditionalOf conditional_of_directive directiveName isIndentChar
  directive_name_of_word)
open Reading (IsWord Separate Token scan_piece scan_name scan_blank scan_number)

section Texts

theorem directive_of_text (directive : Directive) (text word : String) (rest : List Char)
    (written : directive.text = text) (chars : text.toList = '#' :: (word.toList ++ ' ' :: rest))
    (letters : word.toList.all Char.isAlpha = true) (named : word.toList ≠ []) :
    String.ofList (directiveName directive.text.toList) = word ∧
      directiveArguments directive.text.toList = Reading.scan .nothing rest := by
  have each := List.all_eq_true.1 letters
  rw [written]
  constructor
  · rw [chars, directive_name_of_word each named (by simp), String.ofList_toList]
  · have visible : ∀ c ∈ word.toList, isIndentChar c = false := by
      intro c member
      by_contra blank
      simp only [isIndentChar, Bool.not_eq_false, Bool.or_eq_true, beq_iff_eq] at blank
      have letter := each c member
      rcases blank with rfl | rfl <;> exact absurd letter (by decide)
    obtain ⟨first, others, split⟩ := List.exists_cons_of_ne_nil named
    have start : (word.toList ++ ' ' :: rest).dropWhile isIndentChar = word.toList ++ ' ' :: rest := by
      rw [split, List.cons_append, List.dropWhile_cons, visible first (by simp [split])]
      rfl
    rw [chars]
    change Reading.scan .nothing
      (((word.toList ++ ' ' :: rest).dropWhile isIndentChar).dropWhile Char.isAlpha) = _
    rw [start, List.dropWhile_append_of_pos each]
    exact scan_blank (by rfl) rest

variable {name : String} (word : IsWord name)

include word

theorem scan_enclosed {opening : List Char} {tokens : List Token}
    (before : Reading.advance .nothing opening = (tokens, .nothing)) :
    Reading.scan .nothing (opening ++ (name.toList ++ [')'])) =
      tokens ++ [.word name, .mark ")"] := by
  have closing : Separate [')'] := Reading.separate_of_separates (by decide)
  rw [scan_piece before, scan_name word _ closing]
  rfl

end Texts

def macroOf (name parameters replacement : String) : Macro :=
  ⟨name, Reading.tokens (parameters ++ blankBefore replacement)⟩

section Questions

variable (compiler : Compiler) (macros : List Macro) {name : String} (word : IsWord name)

include word

theorem holds_not_defined :
    holds compiler macros (Directive.ifNotDefined name).text.toList =
      some (!isDefined compiler macros name) := by
  have before : Reading.advance .nothing "!defined(".toList =
      ([.mark "!", .word "defined", .mark "("], .nothing) := by decide
  obtain ⟨named, arguments⟩ := directive_of_text (.ifNotDefined name)
    ("#if !defined(" ++ name ++ ")") "if" ("!defined(".toList ++ (name.toList ++ [')'])) rfl
    (by simp) (by decide) (by decide)
  unfold holds
  rw [named, arguments, scan_enclosed word before]
  rfl

theorem holds_defined :
    holds compiler macros (Directive.ifDefined name).text.toList =
      some (isDefined compiler macros name) := by
  have before : Reading.advance .nothing "defined(".toList =
      ([.word "defined", .mark "("], .nothing) := by decide
  obtain ⟨named, arguments⟩ := directive_of_text (.ifDefined name) ("#if defined(" ++ name ++ ")")
    "if" ("defined(".toList ++ (name.toList ++ [')'])) rfl (by simp) (by decide) (by decide)
  unfold holds
  rw [named, arguments, scan_enclosed word before]
  rfl

theorem holds_has_attribute (asks : compiler.asks = true) :
    holds compiler macros (Directive.ifHasAttribute name).text.toList =
      some (compiler.knows name) := by
  have before : Reading.advance .nothing "__has_cpp_attribute(".toList =
      ([.word "__has_cpp_attribute", .mark "("], .nothing) := by decide
  obtain ⟨named, arguments⟩ := directive_of_text (.ifHasAttribute name)
    ("#if __has_cpp_attribute(" ++ name ++ ")") "if"
    ("__has_cpp_attribute(".toList ++ (name.toList ++ [')'])) rfl (by simp) (by decide) (by decide)
  unfold holds
  rw [named, arguments, scan_enclosed word before]
  exact if_pos ⟨rfl, asks⟩

omit word in
theorem scan_decimal (n : Nat) :
    Reading.scan .nothing (toString n).toList = [.number (Nat.toDigits 10 n)] := by
  have number : Reading.IsNumber (Nat.toDigits 10 n) := by
    simpa [Reading.decimalText, Suffix.text] using Reading.decimal_is_number n .none
  have scanned := scan_number number [] (by simp [Separate])
  simpa [Reading.scan, Reading.Pending.finish] using scanned

theorem holds_not_equal (value : Nat) :
    holds compiler macros (Directive.elifNotEqual name value).text.toList =
      (valueOf macros name).map (· != value) := by
  have between : Reading.advance .nothing " != ".toList = ([.mark "!="], .nothing) := by decide
  obtain ⟨named, arguments⟩ := directive_of_text (.elifNotEqual name value)
    ("#elif " ++ name ++ " != " ++ toString value) "elif"
    (name.toList ++ (" != ".toList ++ (toString value).toList)) rfl (by simp) (by decide) (by decide)
  have separate : Separate (" != ".toList ++ (toString value).toList) :=
    Reading.separate_append (by decide) _
  unfold holds
  rw [named, arguments, scan_name word _ separate, scan_piece between, scan_decimal]
  change (valueOf macros name).bind (fun found =>
    (Text.readDigits 10 (Nat.toDigits 10 value)).bind fun other => some (found != other)) = _
  rw [Text.read_decimal_digits]
  cases valueOf macros name <;> rfl

end Questions

section Macros

theorem value_of_number {macros : List Macro} {name : String} {value : Nat}
    (found : macros.find? (·.name = name) = some (macroOf name "" (toString value))) :
    valueOf macros name = some value := by
  have number : (macroOf name "" (toString value)).replacement =
      [.number (Nat.toDigits 10 value)] := by
    have text : ("" ++ blankBefore (toString value)).toList = ' ' :: (toString value).toList := by
      simp [blankBefore]
    change Reading.scan .nothing ("" ++ blankBefore (toString value)).toList = _
    rw [text, scan_blank (by rfl), scan_decimal]
  unfold valueOf
  rw [found]
  simp only [macroOf] at number ⊢
  rw [number]
  exact Text.read_decimal_digits value

theorem perform_define (stage : Stage) {name parameters replacement : String} (word : IsWord name)
    (separate : Separate (parameters ++ blankBefore replacement).toList) :
    stage.perform (Directive.define name parameters replacement).text.toList =
      some { stage with macros := macroOf name parameters replacement :: stage.macros } := by
  obtain ⟨named, arguments⟩ := directive_of_text (.define name parameters replacement)
    ("#define " ++ name ++ parameters ++ blankBefore replacement) "define"
    (name.toList ++ (parameters ++ blankBefore replacement).toList) rfl (by simp) (by decide)
    (by decide)
  unfold Stage.perform
  rw [named, arguments, scan_name word _ separate]
  rfl

end Macros

section Lines

variable {compiler : Compiler} {macros : List Macro} {choices : List Choice} {directive : Directive}
  {rest later : List (List Char)} {last : Stage}

/-- A conditional directive is gone, whatever it does to the open blocks. -/
theorem process_turned {conditional : Nesting.Conditional}
    (same : conditionalOf directive = some conditional) {around : List Choice}
    (turned : Stage.turn compiler ⟨macros, choices⟩ directive.text.toList conditional = some around)
    (others : process compiler ⟨macros, around⟩ rest = some (last, later)) :
    process compiler ⟨macros, choices⟩ (directive.text.toList :: rest) = some (last, later) := by
  have taken : take compiler ⟨macros, choices⟩ directive.text.toList =
      some (⟨macros, around⟩, []) := by
    unfold take
    rw [(conditional_of_directive directive).trans same]
    simp only [turned, Option.map_some]
  exact process_cons taken others

theorem process_opening (opens : conditionalOf directive = some .opening)
    (active : choices.all (· = .taken) = true) {taken : Bool}
    (asked : holds compiler macros directive.text.toList = some taken)
    (others : process compiler ⟨macros, .next taken :: choices⟩ rest = some (last, later)) :
    process compiler ⟨macros, choices⟩ (directive.text.toList :: rest) = some (last, later) :=
  process_turned opens (by simp [Stage.turn, Stage.isActive, active, asked]) others

theorem process_branch (branches : conditionalOf directive = some .branch) {taken : Bool}
    (asked : holds compiler macros directive.text.toList = some taken)
    (others : process compiler ⟨macros, .next taken :: choices⟩ rest = some (last, later)) :
    process compiler ⟨macros, .waiting :: choices⟩ (directive.text.toList :: rest) =
      some (last, later) :=
  process_turned branches (by simp [Stage.turn, asked]) others

theorem process_other_branch (branches : conditionalOf directive = some .branch)
    (others : process compiler ⟨macros, .settled :: choices⟩ rest = some (last, later)) :
    process compiler ⟨macros, .taken :: choices⟩ (directive.text.toList :: rest) =
      some (last, later) :=
  process_turned branches rfl others

theorem process_closing (closes : conditionalOf directive = some .closing) {choice : Choice}
    (others : process compiler ⟨macros, choices⟩ rest = some (last, later)) :
    process compiler ⟨macros, choice :: choices⟩ (directive.text.toList :: rest) =
      some (last, later) :=
  process_turned closes rfl others

theorem process_idle (quiet : conditionalOf directive = none)
    (skipped : choices.all (· = .taken) = false)
    (others : process compiler ⟨macros, choices⟩ rest = some (last, later)) :
    process compiler ⟨macros, choices⟩ (directive.text.toList :: rest) = some (last, later) := by
  have taken : take compiler ⟨macros, choices⟩ directive.text.toList =
      some (⟨macros, choices⟩, []) := by
    unfold take
    rw [(conditional_of_directive directive).trans quiet]
    simp [Stage.isActive, skipped]
  exact process_cons taken others

theorem process_define {name parameters replacement : String} (word : IsWord name)
    (separate : Separate (parameters ++ blankBefore replacement).toList)
    (active : choices.all (· = .taken) = true)
    (others : process compiler ⟨macroOf name parameters replacement :: macros, choices⟩ rest =
      some (last, later)) :
    process compiler ⟨macros, choices⟩
        ((Directive.define name parameters replacement).text.toList :: rest) =
      some (last, (Directive.define name parameters replacement).text.toList :: later) := by
  let directive := Directive.define name parameters replacement
  have taken : take compiler ⟨macros, choices⟩ directive.text.toList =
      some (⟨macroOf name parameters replacement :: macros, choices⟩,
        [directive.text.toList]) := by
    unfold take
    rw [conditional_of_directive, perform_define _ word separate]
    simp [directive, conditionalOf, Stage.isActive, active]
  exact process_cons taken others

end Lines

end EnumHeader.Cpp.Preprocessing

import EnumHeader.Cpp.Directive
import EnumHeader.Proofs.Cpp.Rows

/-!
# Conditional directives of a text

Line by line, a text is read for the directives that open a conditional block, go on to another
branch of it, or close it. A directive starts with a hash sign, with blanks before and after it. In
front of a line a margin makes no difference, and neither does a carriage return at its end.
-/

namespace EnumHeader.Cpp.Nesting

set_option autoImplicit false

inductive Conditional where
  | opening
  | branch
  | closing
  deriving Repr, DecidableEq

/-- The blocks that are open after a directive; nothing if there is none to go on with. -/
def Conditional.move : Conditional → Nat → Option Nat
  | .opening, depth => some (depth + 1)
  | .branch, depth => if depth = 0 then none else some depth
  | .closing, depth => if depth = 0 then none else some (depth - 1)

def conditionals : List (List Char × Conditional) :=
  [("if".toList, .opening), ("ifdef".toList, .opening), ("ifndef".toList, .opening),
    ("elif".toList, .branch), ("else".toList, .branch), ("endif".toList, .closing)]

def isIndentChar (c : Char) : Bool :=
  c == ' ' || c == '\t'

def directiveName (line : List Char) : List Char :=
  match line.dropWhile isIndentChar with
  | '#' :: rest => (rest.dropWhile isIndentChar).takeWhile Char.isAlpha
  | _ => []

def conditional? (line : List Char) : Option Conditional :=
  conditionals.lookup (directiveName line)

def nestLine (depth : Nat) (line : List Char) : Option Nat :=
  match conditional? line with
  | some conditional => conditional.move depth
  | none => some depth

theorem nest_line_of_none {line : List Char} (quiet : conditional? line = none) (depth : Nat) :
    nestLine depth line = some depth := by
  unfold nestLine
  rw [quiet]

theorem nest_line_of_some {line : List Char} {conditional : Conditional}
    (found : conditional? line = some conditional) (depth : Nat) :
    nestLine depth line = conditional.move depth := by
  unfold nestLine
  rw [found]

/-- The blocks that are open after some lines, unless one closes or goes on with none. -/
def nest (depth : Nat) (lines : List (List Char)) : Option Nat :=
  lines.foldlM nestLine depth

theorem nest_append (depth : Nat) (first second : List (List Char)) :
    nest depth (first ++ second) = (nest depth first).bind fun middle => nest middle second :=
  List.foldlM_append

theorem nest_cons (depth : Nat) (line : List Char) (rest : List (List Char)) :
    nest depth (line :: rest) = (nestLine depth line).bind fun next => nest next rest :=
  List.foldlM_cons

theorem directive_name_of_margin {margin : List Char} (indent : IsIndent margin)
    (line : List Char) : directiveName (margin ++ line) = directiveName line := by
  have skipped : (margin ++ line).dropWhile isIndentChar = line.dropWhile isIndentChar :=
    List.dropWhile_append_of_pos (by simpa [IsIndent, isIndentChar] using indent)
  unfold directiveName
  rw [skipped]

theorem directive_name_of_return (line : List Char) :
    directiveName (line ++ ['\r']) = directiveName line := by
  have blank : isIndentChar '\r' = false := by decide
  have letter : Char.isAlpha '\r' = false := by decide
  have dropped (text : List Char) : (text ++ ['\r']).dropWhile isIndentChar =
      text.dropWhile isIndentChar ++ ['\r'] := by
    rw [List.dropWhile_append]
    split
    next empty =>
      rw [List.isEmpty_iff.1 empty, List.dropWhile_cons, blank]
      rfl
    next => rfl
  have taken (text : List Char) : (text ++ ['\r']).takeWhile Char.isAlpha =
      text.takeWhile Char.isAlpha := by
    induction text with
    | nil => simp [letter]
    | cons c rest ih => simp only [List.cons_append, List.takeWhile_cons, ih]
  unfold directiveName
  rw [dropped]
  cases start : line.dropWhile isIndentChar with
  | nil => rfl
  | cons c rest =>
      by_cases hash : c = '#'
      · subst hash
        change ((rest ++ ['\r']).dropWhile isIndentChar).takeWhile Char.isAlpha = _
        rw [dropped, taken]
        rfl
      · simp [hash]

theorem conditional_of_return (line : List Char) :
    conditional? (line ++ ['\r']) = conditional? line := by
  unfold conditional?
  rw [directive_name_of_return]

theorem conditional_of_start {c : Char} {rest : List Char} (visible : isIndentChar c = false)
    (code : c ≠ '#') : conditional? (c :: rest) = none := by
  have name : directiveName (c :: rest) = [] := by
    unfold directiveName
    rw [List.dropWhile_cons, visible]
    simp [code]
  unfold conditional?
  rw [name]
  decide

theorem conditional_of_comment {line : List Char} (marked : ['/', '/'] <+: line) :
    conditional? line = none := by
  obtain ⟨rest, rfl⟩ := marked
  exact conditional_of_start (by decide) (by decide)

theorem directive_name_of_no_hash {line : List Char} (code : '#' ∉ line) :
    directiveName line = [] := by
  unfold directiveName
  split
  next rest found =>
    have inside : '#' ∈ line.dropWhile isIndentChar := by simp [found]
    exact absurd (List.dropWhile_subset _ inside) code
  next => rfl

theorem conditional_of_no_hash {line : List Char} (code : '#' ∉ line) :
    conditional? line = none := by
  unfold conditional?
  rw [directive_name_of_no_hash code]
  decide

def conditionalOf : Directive → Option Conditional
  | .ifndef _ | .ifNotDefined _ | .ifDefined _ | .ifHasAttribute _ => some .opening
  | .elifNotEqual .. => some .branch
  | .endif | .endifOf _ => some .closing
  | .pragmaOnce | .includeFile _ | .define .. | .error _ => none

theorem directive_name_of_word {word rest : List Char} (letters : ∀ c ∈ word, c.isAlpha = true)
    (named : word ≠ []) (ends : ∀ c ∈ rest.head?, c.isAlpha = false) :
    directiveName ('#' :: (word ++ rest)) = word := by
  obtain ⟨first, others, rfl⟩ := List.exists_cons_of_ne_nil named
  have visible : isIndentChar first = false := by
    by_contra blank
    simp only [isIndentChar, Bool.not_eq_false, Bool.or_eq_true, beq_iff_eq] at blank
    have letter := letters first (by simp)
    rcases blank with rfl | rfl <;> exact absurd letter (by decide)
  have stops : rest.takeWhile Char.isAlpha = [] := by
    cases rest with
    | nil => rfl
    | cons c later => simp [ends c rfl]
  change (((first :: others) ++ rest).dropWhile isIndentChar).takeWhile Char.isAlpha = _
  rw [List.cons_append, List.dropWhile_cons, visible]
  change ((first :: others) ++ rest).takeWhile Char.isAlpha = _
  rw [List.takeWhile_append_of_pos letters, stops, List.append_nil]

theorem conditional_of_word (text word : String) (rest : List Char)
    (chars : text.toList = '#' :: (word.toList ++ rest))
    (letters : word.toList.all Char.isAlpha = true) (named : word.toList ≠ [])
    (ends : ∀ c ∈ rest.head?, c.isAlpha = false) :
    conditional? text.toList = conditionals.lookup word.toList := by
  rw [chars, conditional?, directive_name_of_word (List.all_eq_true.1 letters) named ends]

theorem conditional_of_directive (directive : Directive) :
    conditional? directive.text.toList = conditionalOf directive := by
  -- a blank ends the word of every directive but the bare end of a block
  have spaced (text word rest : String) (result : Option Conditional)
      (chars : text.toList = '#' :: (word.toList ++ ' ' :: rest.toList))
      (letters : word.toList.all Char.isAlpha = true) (named : word.toList ≠ [])
      (found : conditionals.lookup word.toList = result) : conditional? text.toList = result :=
    (conditional_of_word text word (' ' :: rest.toList) chars letters named (by simp)).trans found
  cases directive with
  | pragmaOnce =>
      exact spaced "#pragma once" "pragma" "once" none (by decide) (by decide) (by decide)
        (by decide +kernel)
  | includeFile target =>
      exact spaced ("#include " ++ target) "include" target none (by simp) (by decide) (by decide)
        (by decide +kernel)
  | ifndef name =>
      exact spaced ("#ifndef " ++ name) "ifndef" name (some .opening) (by simp) (by decide)
        (by decide) (by decide +kernel)
  | ifNotDefined name =>
      exact spaced ("#if !defined(" ++ name ++ ")") "if" ("!defined(" ++ name ++ ")")
        (some .opening) (by simp) (by decide) (by decide) (by decide +kernel)
  | ifDefined name =>
      exact spaced ("#if defined(" ++ name ++ ")") "if" ("defined(" ++ name ++ ")")
        (some .opening) (by simp) (by decide) (by decide) (by decide +kernel)
  | ifHasAttribute name =>
      exact spaced ("#if __has_cpp_attribute(" ++ name ++ ")") "if"
        ("__has_cpp_attribute(" ++ name ++ ")") (some .opening) (by simp) (by decide) (by decide)
        (by decide +kernel)
  | elifNotEqual name value =>
      exact spaced ("#elif " ++ name ++ " != " ++ toString value) "elif"
        (name ++ " != " ++ toString value) (some .branch) (by simp) (by decide) (by decide)
        (by decide +kernel)
  | endif =>
      exact (conditional_of_word "#endif" "endif" [] (by decide) (by decide) (by decide)
        (by simp)).trans (by decide +kernel)
  | endifOf name =>
      exact spaced ("#endif // " ++ name) "endif" ("// " ++ name) (some .closing) (by simp)
        (by decide) (by decide) (by decide +kernel)
  | define name parameters replacement =>
      exact spaced ("#define " ++ name ++ parameters ++ blankBefore replacement) "define"
        (name ++ parameters ++ blankBefore replacement) none (by simp) (by decide) (by decide)
        (by decide +kernel)
  | error text =>
      exact spaced ("#error \"" ++ text ++ "\"") "error" ("\"" ++ text ++ "\"") none (by simp)
        (by decide) (by decide) (by decide +kernel)

end EnumHeader.Cpp.Nesting

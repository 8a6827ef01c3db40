import EnumHeader.Proofs.Cpp.Nesting.Harmless
import EnumHeader.Proofs.Cpp.Nesting.Lines

/-!
# Lines of generated source

What a line of harmless texts leads to: a line without a brace, with one that opens or closes
something, with a string literal in it, with a comment that takes up all of it or follows a closing
brace, and every directive.
-/

namespace EnumHeader.Cpp.Nesting

set_option autoImplicit false

open Depth (flat braced conditioned)

section Lines

variable {text first second : String}

theorem IsLine.of_quiet {before after : Nat} (single : '\n' ∉ text.toList)
    (quiet : conditional? text.toList = none)
    (leads : Leads (text.toList ++ ['\n']) before after) :
    IsLine text ⟨before, 0⟩ ⟨after, 0⟩ :=
  ⟨single, leads, fun _ => nest_line_of_none quiet _⟩

theorem IsLine.of_text {before after : Nat} (single : '\n' ∉ text.toList)
    (quiet : conditional? text.toList = none) (leads : Leads text.toList before after) :
    IsLine text ⟨before, 0⟩ ⟨after, 0⟩ := by
  have ended : Leads ['\n'] after after := leads_of_scan rfl
  exact .of_quiet single quiet (leads.append ended)

theorem line_of_harmless (harmless : Harmless text) : IsLine text flat flat :=
  .of_text harmless.single harmless.conditional (harmless.leads 0)

theorem line_of_braces {before after : Nat} (single : '\n' ∉ text.toList)
    (code : '#' ∉ text.toList) (leads : Leads text.toList before after) :
    IsLine text ⟨before, 0⟩ ⟨after, 0⟩ :=
  .of_text single (conditional_of_no_hash code) leads

theorem line_opening : IsLine "\x7b" flat braced :=
  line_of_braces (by decide) (by decide) (leads_of_scan (by decide))

theorem line_closing : IsLine "\x7d" braced flat :=
  line_of_braces (by decide) (by decide) (leads_of_scan (by decide))

theorem line_ending : IsLine "\x7d;" braced flat :=
  line_of_braces (by decide) (by decide) (leads_of_scan (by decide))

theorem line_of_ending {ending : List Char} {after : Nat} (harmless : Harmless text)
    (single : '\n' ∉ ending) (code : '#' ∉ ending)
    (scanned : scan ⟨.code, 0⟩ ending = some ⟨.code, after⟩) :
    IsLine (text ++ String.ofList ending) flat ⟨after, 0⟩ := by
  have chars : (text ++ String.ofList ending).toList = text.toList ++ ending := by simp
  apply line_of_braces
  · rw [chars, List.mem_append]
    exact fun inside => inside.elim harmless.single single
  · rw [chars, List.mem_append]
    exact fun inside => inside.elim (fun hash => absurd (harmless _ hash) (by decide)) code
  · rw [chars]
    exact (harmless.leads 0).append (leads_of_scan scanned)

theorem newline_not_mem_escaped (c : Char) : '\n' ∉ escapedChar c := by
  have digit (n : Nat) : '\n' ≠ Nat.digitChar (n % 8) := by
    have small : ∀ digit < 8, '\n' ≠ Nat.digitChar digit := by decide
    exact small (n % 8) (Nat.mod_lt n (by decide))
  unfold escapedChar
  split
  any_goals decide
  next _ _ notFeed _ _ _ =>
    split
    · simp [Text.threeOctalDigits, digit]
    · simpa using fun feed => notFeed feed.symm

theorem newline_not_mem_literal (stringType : StringType) (content : String) :
    '\n' ∉ (stringLiteral stringType content).toList := by
  have mark : '\n' ∉ literalMark stringType := by cases stringType <;> decide
  have inside : '\n' ∉ escaped content.toList := by
    simpa [escaped] using fun c _ => newline_not_mem_escaped c
  simp [stringLiteral, mark, inside]

theorem line_of_literal (stringType : StringType) (content : String) {c : Char} {rest : List Char}
    (start : first.toList = c :: rest) (visible : isIndentChar c = false)
    (before : Harmless first) (after : Harmless second) :
    IsLine (first ++ stringLiteral stringType content ++ second) flat flat := by
  have chars : (first ++ stringLiteral stringType content ++ second).toList =
      first.toList ++ (stringLiteral stringType content).toList ++ second.toList := by
    rw [String.toList_append, String.toList_append]
  apply IsLine.of_text
  · rw [chars]
    intro inside
    rcases List.mem_append.1 inside with earlier | last
    · rcases List.mem_append.1 earlier with head | literal
      · exact before.single head
      · exact newline_not_mem_literal stringType content literal
    · exact after.single last
  · rw [chars, start]
    have code : c ≠ '#' := by
      rintro rfl
      exact absurd (before '#' (by simp [start])) (by decide)
    exact conditional_of_start visible code
  · rw [chars]
    exact ((before.leads 0).append (leads_of_literal stringType content 0)).append (after.leads 0)

theorem line_of_comment (marked : ['/', '/'] <+: text.toList) (single : '\n' ∉ text.toList) :
    IsLine text flat flat := by
  refine .of_quiet single (conditional_of_comment marked) ?_
  obtain ⟨rest, start⟩ := marked
  have alone : '\n' ∉ rest := fun inside => single (start ▸ List.mem_append_right _ inside)
  rw [← start]
  exact leads_of_comment alone 0

theorem line_of_namespace_end {name : String} (harmless : Harmless name) :
    IsLine ("\x7d // namespace " ++ name) braced flat := by
  have chars : ("\x7d // namespace " ++ name).toList =
      ['\x7d', ' '] ++ (['/', '/'] ++ (" namespace ".toList ++ name.toList)) := by simp
  have alone : '\n' ∉ " namespace ".toList ++ name.toList := by
    simpa using harmless.single
  have closed : Leads ['\x7d', ' '] 1 0 := leads_of_scan (by decide)
  have quiet : conditional? ("\x7d // namespace " ++ name).toList = none := by
    rw [chars]
    exact conditional_of_start (by decide) (by decide)
  refine .of_quiet ?_ quiet ?_
  · rw [chars]
    simpa using alone
  · rw [chars, List.append_assoc]
    exact closed.append (leads_of_comment alone 0)

end Lines

section Directives

/-- A directive that is one line and neither opens nor closes a brace. -/
structure IsTame (directive : Directive) : Prop where
  single : '\n' ∉ directive.text.toList
  leads : Leads (directive.text.toList ++ ['\n']) 0 0

theorem IsTame.of_harmless {directive : Directive} (text rest : String)
    (written : directive.text = text) (chars : text.toList = '#' :: rest.toList)
    (harmless : Harmless rest) : IsTame directive := by
  have hash : Leads ['#'] 0 0 := leads_of_scan (by decide)
  have feed : Leads ['\n'] 0 0 := leads_of_scan (by decide)
  constructor
  · rw [written, chars]
    simpa using harmless.single
  · rw [written, chars]
    exact (hash.append (harmless.leads 0)).append feed

def HasHarmlessTexts : Directive → Prop
  | .pragmaOnce | .endif => True
  | .includeFile target => Harmless target
  | .ifndef name | .ifNotDefined name | .ifDefined name | .ifHasAttribute name => Harmless name
  | .elifNotEqual name _ => Harmless name
  | .endifOf name => Harmless name
  | .define name parameters replacement =>
      Harmless name ∧ Harmless parameters ∧ Harmless replacement
  | .error text => Harmless text

theorem tame_of_harmless (directive : Directive) (harmless : HasHarmlessTexts directive) :
    IsTame directive := by
  cases directive with
  | pragmaOnce => exact .of_harmless "#pragma once" "pragma once" rfl (by decide) (.literal rfl)
  | endif => exact .of_harmless "#endif" "endif" rfl (by decide) (.literal rfl)
  | includeFile target =>
      exact .of_harmless ("#include " ++ target) ("include " ++ target) rfl (by simp)
        (.append (.literal rfl) harmless)
  | ifndef name =>
      exact .of_harmless ("#ifndef " ++ name) ("ifndef " ++ name) rfl (by simp)
        (.append (.literal rfl) harmless)
  | ifNotDefined name =>
      exact .of_harmless ("#if !defined(" ++ name ++ ")") ("if !defined(" ++ name ++ ")") rfl
        (by simp) (.append (.append (.literal rfl) harmless) (.literal rfl))
  | ifDefined name =>
      exact .of_harmless ("#if defined(" ++ name ++ ")") ("if defined(" ++ name ++ ")") rfl
        (by simp) (.append (.append (.literal rfl) harmless) (.literal rfl))
  | ifHasAttribute name =>
      exact .of_harmless ("#if __has_cpp_attribute(" ++ name ++ ")")
        ("if __has_cpp_attribute(" ++ name ++ ")") rfl (by simp)
        (.append (.append (.literal rfl) harmless) (.literal rfl))
  | elifNotEqual name value =>
      exact .of_harmless ("#elif " ++ name ++ " != " ++ toString value)
        ("elif " ++ name ++ " != " ++ toString value) rfl (by simp)
        (.append (.append (.append (.literal rfl) harmless) (.literal rfl)) (harmless_number value))
  | define name parameters replacement =>
      obtain ⟨named, taken, replaced⟩ := harmless
      have tail : Harmless (blankBefore replacement) := by
        unfold blankBefore
        split
        · exact .literal rfl
        · exact .append (.literal rfl) replaced
      exact .of_harmless ("#define " ++ name ++ parameters ++ blankBefore replacement)
        ("define " ++ name ++ parameters ++ blankBefore replacement) rfl (by simp)
        (.append (.append (.append (.literal rfl) named) taken) tail)
  | endifOf name =>
      -- the macro stands in a comment
      have chars : ("#endif // " ++ name).toList =
          "#endif ".toList ++ (['/', '/'] ++ (' ' :: name.toList)) := by simp
      have alone : '\n' ∉ ' ' :: name.toList := by simpa using harmless.single
      have start : Leads "#endif ".toList 0 0 := leads_of_scan (by decide)
      constructor
      · change '\n' ∉ ("#endif // " ++ name).toList
        rw [chars]
        simpa using alone
      · change Leads (("#endif // " ++ name).toList ++ ['\n']) 0 0
        rw [chars, List.append_assoc]
        exact start.append (leads_of_comment alone 0)
  | error text =>
      -- the text stands between quotes
      have chars : ("#error \"" ++ text ++ "\"").toList =
          "#error ".toList ++ (['"'] ++ text.toList ++ ['"']) := by simp
      have start : Leads "#error ".toList 0 0 := leads_of_scan (by decide)
      have feed : Leads ['\n'] 0 0 := leads_of_scan (by decide)
      constructor
      · change '\n' ∉ ("#error \"" ++ text ++ "\"").toList
        rw [chars]
        simpa using harmless.single
      · change Leads (("#error \"" ++ text ++ "\"").toList ++ ['\n']) 0 0
        rw [chars]
        exact (start.append (leads_of_quoted harmless 0)).append feed

section Conditions

variable (directive : Directive)

theorem line_of_directive (quiet : conditionalOf directive = none)
    (harmless : HasHarmlessTexts directive) : IsLine directive.text flat flat := by
  have tame := tame_of_harmless directive harmless
  exact .of_quiet tame.single ((conditional_of_directive directive).trans quiet) tame.leads

theorem line_of_opening (opens : conditionalOf directive = some .opening)
    (harmless : HasHarmlessTexts directive) : IsLine directive.text flat conditioned := by
  have tame := tame_of_harmless directive harmless
  have read := (conditional_of_directive directive).trans opens
  refine ⟨tame.single, tame.leads, fun around => (nest_line_of_some read _).trans ?_⟩
  exact congrArg some (Nat.add_right_comm 0 around 1)

theorem line_of_branch (branches : conditionalOf directive = some .branch)
    (harmless : HasHarmlessTexts directive) :
    IsLine directive.text conditioned conditioned := by
  have tame := tame_of_harmless directive harmless
  have read := (conditional_of_directive directive).trans branches
  have filled (around : Nat) : 1 + around ≠ 0 := by omega
  refine ⟨tame.single, tame.leads, fun around => (nest_line_of_some read _).trans ?_⟩
  exact if_neg (filled around)

theorem line_of_closing (closes : conditionalOf directive = some .closing)
    (harmless : HasHarmlessTexts directive) : IsLine directive.text conditioned flat := by
  have tame := tame_of_harmless directive harmless
  have read := (conditional_of_directive directive).trans closes
  have filled (around : Nat) : 1 + around ≠ 0 := by omega
  have closed (around : Nat) : 1 + around - 1 = 0 + around := by omega
  refine ⟨tame.single, tame.leads, fun around => (nest_line_of_some read _).trans ?_⟩
  exact (if_neg (filled around)).trans (congrArg some (closed around))

end Conditions

end Directives

end EnumHeader.Cpp.Nesting

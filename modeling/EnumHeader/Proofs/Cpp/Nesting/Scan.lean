import EnumHeader.Cpp.Quotation
import Mathlib.Tactic.SplitIfs

/-!
# Braces of a text

A text is scanned from left to right for the braces that stand outside of line comments and string
literals. A piece of text leads from one depth to another if it starts and ends in plain code,
whatever is open around it; pieces that follow each other lead on. Block comments and character
literals are not known to the scan.
-/

namespace EnumHeader.Cpp.Nesting

set_option autoImplicit false

inductive Mode where
  | code
  /-- After a slash, which a second one makes a comment. -/
  | slash
  | comment
  | quote
  /-- After a backslash in a string literal. -/
  | escape
  deriving Repr, DecidableEq

structure Place where
  mode : Mode
  depth : Nat
  deriving Repr, DecidableEq

/-- One character of code; nothing if it closes a brace that is not open. -/
def codeStep (depth : Nat) (c : Char) : Option Place :=
  if c = '\x7b' then some ⟨.code, depth + 1⟩
  else if c = '\x7d' then if depth = 0 then none else some ⟨.code, depth - 1⟩
  else if c = '"' then some ⟨.quote, depth⟩
  else if c = '/' then some ⟨.slash, depth⟩
  else some ⟨.code, depth⟩

def step (place : Place) (c : Char) : Option Place :=
  match place.mode with
  | .code => codeStep place.depth c
  | .slash => if c = '/' then some ⟨.comment, place.depth⟩ else codeStep place.depth c
  | .comment => some ⟨if c = '\n' then .code else .comment, place.depth⟩
  | .quote =>
      some ⟨if c = '"' then .code else if c = '\\' then .escape else .quote, place.depth⟩
  | .escape => some ⟨.quote, place.depth⟩

def scan (place : Place) (text : List Char) : Option Place :=
  text.foldlM step place

theorem scan_cons (place : Place) (c : Char) (rest : List Char) :
    scan place (c :: rest) = (step place c).bind fun next => scan next rest :=
  List.foldlM_cons

theorem scan_append (place : Place) (first second : List Char) :
    scan place (first ++ second) = (scan place first).bind fun middle => scan middle second :=
  List.foldlM_append

/-- The text leads from one number of open braces to another, with any number around them. -/
def Leads (text : List Char) (before after : Nat) : Prop :=
  ∀ around, scan ⟨.code, before + around⟩ text = some ⟨.code, after + around⟩

theorem Leads.append {first second : List Char} {before middle after : Nat}
    (left : Leads first before middle) (right : Leads second middle after) :
    Leads (first ++ second) before after := by
  intro around
  rw [scan_append, left around]
  exact right around

theorem step_around {place next : Place} {c : Char} (stepped : step place c = some next)
    (around : Nat) :
    step ⟨place.mode, place.depth + around⟩ c = some ⟨next.mode, next.depth + around⟩ := by
  have code {depth : Nat} (stepped : codeStep depth c = some next) :
      codeStep (depth + around) c = some ⟨next.mode, next.depth + around⟩ := by
    unfold codeStep at stepped ⊢
    grind
  obtain ⟨mode, depth⟩ := place
  cases mode with
  | code => exact code stepped
  | slash =>
      simp only [step] at stepped ⊢
      split_ifs at stepped ⊢
      · obtain rfl := Option.some.inj stepped
        rfl
      · exact code stepped
  | _ =>
      obtain rfl := Option.some.inj stepped
      rfl

theorem scan_around {place final : Place} {text : List Char}
    (scanned : scan place text = some final) (around : Nat) :
    scan ⟨place.mode, place.depth + around⟩ text = some ⟨final.mode, final.depth + around⟩ := by
  induction text generalizing place with
  | nil =>
      obtain rfl := Option.some.inj scanned
      rfl
  | cons c rest ih =>
      rw [scan_cons, Option.bind_eq_some_iff] at scanned
      obtain ⟨next, stepped, later⟩ := scanned
      rw [scan_cons, step_around stepped]
      exact ih later

theorem leads_of_scan {text : List Char} {before after : Nat}
    (scanned : scan ⟨.code, before⟩ text = some ⟨.code, after⟩) : Leads text before after :=
  scan_around scanned

/-- The character stands for itself in code and in string literals, and starts no directive. -/
def isHarmless (c : Char) : Bool :=
  !(['\x7b', '\x7d', '"', '/', '#', '\\', '\n'].contains c)

theorem is_harmless_iff (c : Char) :
    isHarmless c = true ↔
      c ≠ '\x7b' ∧ c ≠ '\x7d' ∧ c ≠ '"' ∧ c ≠ '/' ∧ c ≠ '#' ∧ c ≠ '\\' ∧ c ≠ '\n' := by
  simp [isHarmless]

theorem leads_of_harmless {text : List Char} (harmless : ∀ c ∈ text, isHarmless c = true)
    (depth : Nat) : Leads text depth depth := by
  intro around
  induction text with
  | nil => rfl
  | cons c rest ih =>
      simp only [List.forall_mem_cons] at harmless
      obtain ⟨notOpening, notClosing, notQuote, notSlash, -⟩ := (is_harmless_iff c).1 harmless.1
      have stays : step ⟨.code, depth + around⟩ c = some ⟨.code, depth + around⟩ := by
        simp [step, codeStep, notOpening, notClosing, notQuote, notSlash]
      rw [scan_cons, stays]
      exact ih harmless.2

theorem leads_of_comment {text : List Char} (single : '\n' ∉ text) (depth : Nat) :
    Leads (['/', '/'] ++ text ++ ['\n']) depth depth := by
  intro around
  have inside : scan ⟨.comment, depth + around⟩ text = some ⟨.comment, depth + around⟩ := by
    induction text with
    | nil => rfl
    | cons c rest ih =>
        simp only [List.mem_cons, not_or] at single
        have stays : step ⟨.comment, depth + around⟩ c = some ⟨.comment, depth + around⟩ := by
          simp [step, Ne.symm single.1]
        rw [scan_cons, stays]
        exact ih single.2
  have opened : scan ⟨.code, depth + around⟩ ['/', '/'] = some ⟨.comment, depth + around⟩ := rfl
  rw [scan_append, scan_append, opened, Option.bind_some, inside]
  rfl

section Quotation

theorem step_quote {c : Char} (notQuote : c ≠ '"') (notBackslash : c ≠ '\\') (depth : Nat) :
    step ⟨.quote, depth⟩ c = some ⟨.quote, depth⟩ := by
  simp [step, notQuote, notBackslash]

theorem scan_escaped_char (depth : Nat) (c : Char) :
    scan ⟨.quote, depth⟩ (escapedChar c) = some ⟨.quote, depth⟩ := by
  have digit (n : Nat) : step ⟨.quote, depth⟩ (Nat.digitChar (n % 8)) = some ⟨.quote, depth⟩ := by
    have small : ∀ digit < 8, Nat.digitChar digit ≠ '"' ∧ Nat.digitChar digit ≠ '\\' := by decide
    obtain ⟨notQuote, notBackslash⟩ := small (n % 8) (Nat.mod_lt n (by decide))
    exact step_quote notQuote notBackslash depth
  unfold escapedChar
  split
  any_goals rfl
  next notBackslash notQuote _ _ _ _ =>
    split
    · -- the backslash takes the first digit with it
      change scan ⟨.quote, depth⟩ [Nat.digitChar (c.toNat / 8 % 8), Nat.digitChar (c.toNat % 8)] = _
      rw [scan_cons, digit, Option.bind_some, scan_cons, digit]
      rfl
    · rw [scan_cons, step_quote notQuote notBackslash]
      rfl

theorem leads_of_quoted {text : List Char} (harmless : ∀ c ∈ text, isHarmless c = true)
    (depth : Nat) : Leads (['"'] ++ text ++ ['"']) depth depth := by
  intro around
  have inside : scan ⟨.quote, depth + around⟩ text = some ⟨.quote, depth + around⟩ := by
    induction text with
    | nil => rfl
    | cons c rest ih =>
        simp only [List.forall_mem_cons] at harmless
        obtain ⟨-, -, notQuote, -, -, notBackslash, -⟩ := (is_harmless_iff c).1 harmless.1
        rw [scan_cons, step_quote notQuote notBackslash]
        exact ih harmless.2
  have opened : scan ⟨.code, depth + around⟩ ['"'] = some ⟨.quote, depth + around⟩ := rfl
  rw [scan_append, scan_append, opened, Option.bind_some, inside]
  rfl

theorem leads_of_literal (stringType : StringType) (text : String) (depth : Nat) :
    Leads (stringLiteral stringType text).toList depth depth := by
  have inside (around : Nat) :
      scan ⟨.quote, around⟩ (escaped text.toList) = some ⟨.quote, around⟩ := by
    unfold escaped
    induction text.toList with
    | nil => rfl
    | cons c rest ih =>
        rw [List.flatMap_cons, scan_append, scan_escaped_char]
        exact ih
  have marked : Leads (literalMark stringType) depth depth := by
    cases stringType <;> exact leads_of_scan rfl
  intro around
  have opened : scan ⟨.code, depth + around⟩ ['"'] = some ⟨.quote, depth + around⟩ := rfl
  simp only [stringLiteral, String.toList_ofList, scan_append]
  rw [marked around, Option.bind_some, opened, Option.bind_some, inside, Option.bind_some]
  rfl

end Quotation

/-- A carriage return before a line feed changes nothing. -/
theorem scan_returned (place : Place) (text : List Char) :
    scan place (text.flatMap fun c => if c = '\n' then ['\r', '\n'] else [c]) =
      scan place text := by
  induction text generalizing place with
  | nil => rfl
  | cons c rest ih =>
      have one : scan place (if c = '\n' then ['\r', '\n'] else [c]) = step place c := by
        obtain ⟨mode, depth⟩ := place
        split
        next feed =>
          subst feed
          cases mode <;> rfl
        next =>
          rw [scan_cons]
          cases step ⟨mode, depth⟩ c <;> rfl
      rw [List.flatMap_cons, scan_append, one, scan_cons]
      exact congrArg _ (funext ih)

end EnumHeader.Cpp.Nesting

import EnumHeader.Text.Blank
import EnumHeader.Text.Lines

/-!
# Carriage returns inside of lines

A carriage return that ends a line goes with the line end or with the blanks before it. One that is
followed by something visible in its line is an ordinary character of the line and stays.
-/

namespace EnumHeader.Text

set_option autoImplicit false

def Shows (text : List Char) : Prop :=
  ∃ c ∈ text, isBlank c = false

/-- Something visible follows a carriage return before the next line feed. -/
def BreaksLine (text : List Char) : Prop :=
  ∃ before after, text = before ++ '\r' :: after ∧ Shows (after.takeWhile (· ≠ '\n'))

section Trimmed

theorem not_shows_nil : ¬Shows [] :=
  nofun

theorem shows_cons (c : Char) (rest : List Char) :
    Shows (c :: rest) ↔ isBlank c = false ∨ Shows rest := by
  simp [Shows]

theorem mem_of_mem_trim {c : Char} {text : List Char} (member : c ∈ trim text) : c ∈ text := by
  unfold trim trimRight trimLeft at member
  have kept := (List.dropWhile_suffix _).subset (List.mem_reverse.1 member)
  exact (List.dropWhile_suffix _).subset (List.mem_reverse.1 kept)

theorem trim_right_cons (c : Char) (rest : List Char) :
    trimRight (c :: rest) =
      if trimRight rest = [] ∧ isBlank c = true then [] else c :: trimRight rest := by
  unfold trimRight
  rw [List.reverse_cons, List.dropWhile_append]
  cases kept : rest.reverse.dropWhile isBlank with
  | nil => by_cases blank : isBlank c = true <;> simp [blank]
  | cons last others => simp

theorem trim_right_eq_nil_iff (line : List Char) : trimRight line = [] ↔ ¬Shows line := by
  induction line with
  | nil => simp [trimRight, not_shows_nil]
  | cons c rest ih =>
      rw [trim_right_cons, shows_cons, ← Bool.not_eq_true]
      by_cases blank : isBlank c = true
      · simp [blank, ih]
      · simp [blank]

theorem return_mem_trim_right_cons (c : Char) (rest : List Char) :
    '\r' ∈ trimRight (c :: rest) ↔ (c = '\r' ∧ Shows rest) ∨ '\r' ∈ trimRight rest := by
  have blank : isBlank '\r' = true := by decide
  have shown := trim_right_eq_nil_iff rest
  rw [trim_right_cons]
  by_cases visible : Shows rest
  · have kept : trimRight rest ≠ [] := mt shown.1 (not_not_intro visible)
    rw [if_neg fun both => kept both.1, List.mem_cons]
    simp only [visible, and_true]
    exact or_congr_left eq_comm
  · have gone : trimRight rest = [] := shown.2 visible
    by_cases same : c = '\r'
    · simp [gone, visible, same, blank]
    · split
      · simp [gone, visible]
      · simpa [gone, visible] using Ne.symm same

end Trimmed

section Lines

theorem breaks_line_cons (c : Char) (rest : List Char) :
    BreaksLine (c :: rest) ↔
      (c = '\r' ∧ Shows (rest.takeWhile (· ≠ '\n'))) ∨ BreaksLine rest := by
  constructor
  · rintro ⟨before, after, split, visible⟩
    cases before with
    | nil =>
        obtain ⟨rfl, rfl⟩ := List.cons.inj split
        exact .inl ⟨rfl, visible⟩
    | cons first others =>
        obtain ⟨rfl, later⟩ := List.cons.inj split
        exact .inr ⟨others, after, later, visible⟩
  · rintro (⟨rfl, visible⟩ | ⟨before, after, rfl, visible⟩)
    · exact ⟨[], rest, rfl, visible⟩
    · exact ⟨c :: before, after, rfl, visible⟩

theorem head_cons_to_first (c : Char) (parts : List (List Char)) :
    (consToFirst c parts).headD [] = c :: parts.headD [] := by
  cases parts <;> rfl

theorem tail_cons_to_first (c : Char) (parts : List (List Char)) :
    (consToFirst c parts).tail = parts.tail := by
  cases parts <;> rfl

/-- The carriage return that is dropped from the end of a line is blank. -/
theorem first_line_shows (text : List Char) :
    Shows ((lines text).headD []) ↔ Shows (text.takeWhile (· ≠ '\n')) := by
  fun_induction lines text with
  | case1 => rfl
  | case2 rest => rfl
  | case3 rest =>
      have blank : isBlank '\r' = true := by decide
      simp [shows_cons, not_shows_nil, blank]
  | case4 c rest notFeed _ ih =>
      have other : c ≠ '\n' := fun same => notFeed same
      rw [head_cons_to_first, List.takeWhile_cons_of_pos (by simpa using other), shows_cons,
        shows_cons, ih]

theorem exists_line_iff (Holds : List Char → Prop) (empty : ¬Holds []) (parts : List (List Char)) :
    (∃ line ∈ parts, Holds line) ↔ Holds (parts.headD []) ∨ ∃ line ∈ parts.tail, Holds line := by
  cases parts with
  | nil => simp [empty]
  | cons first others => simp

theorem breaks_line_iff (text : List Char) :
    BreaksLine text ↔ ∃ line ∈ lines text, '\r' ∈ trimRight line := by
  have empty : '\r' ∉ trimRight [] := by simp [trimRight]
  have cut := exists_line_iff ('\r' ∈ trimRight ·) empty
  fun_induction lines text with
  | case1 => simp [BreaksLine]
  | case2 rest ih =>
      have skipped : BreaksLine ('\n' :: rest) ↔ BreaksLine rest := by simp [breaks_line_cons]
      exact skipped.trans (ih.trans (by simp [empty]))
  | case3 rest ih =>
      have skipped : BreaksLine ('\r' :: '\n' :: rest) ↔ BreaksLine rest := by
        simp [breaks_line_cons, not_shows_nil]
      exact skipped.trans (ih.trans (by simp [empty]))
  | case4 c rest _ _ ih =>
      have later := ih.trans (cut _)
      rw [cut, breaks_line_cons, head_cons_to_first, tail_cons_to_first,
        return_mem_trim_right_cons, first_line_shows, or_assoc]
      exact or_congr_right later

instance (text : List Char) : Decidable (BreaksLine text) :=
  decidable_of_iff _ (breaks_line_iff text).symm

end Lines

end EnumHeader.Text

/-!
# Lines of a text

A line ends at a line feed; one carriage return directly before that line feed belongs to the line
end. A line feed at the very end of the text starts no further line, and a carriage return that no
line feed follows is an ordinary character.
-/

namespace EnumHeader.Text

set_option autoImplicit false

/-- The item `c` in front of the first part of something that is being cut up. -/
def consToFirst {α : Type} (c : α) : List (List α) → List (List α)
  | [] => [[c]]
  | first :: others => (c :: first) :: others

def lines : List Char → List (List Char)
  | [] => []
  | '\n' :: rest => [] :: lines rest
  | '\r' :: '\n' :: rest => [] :: lines rest
  | c :: rest => consToFirst c (lines rest)

theorem newline_not_mem_of_mem_lines {text line : List Char} (h : line ∈ lines text) :
    '\n' ∉ line := by
  fun_induction lines text generalizing line with
  | case1 => simp at h
  | case2 rest ih =>
      rcases List.mem_cons.1 h with rfl | h
      · simp
      · exact ih h
  | case3 rest ih =>
      rcases List.mem_cons.1 h with rfl | h
      · simp
      · exact ih h
  | case4 c rest notNewline _ ih =>
      have differs : '\n' ≠ c := fun equal => notNewline equal.symm
      cases split : lines rest with
      | nil =>
          rw [split] at h
          simp only [consToFirst, List.mem_singleton] at h
          simp [h, differs]
      | cons first others =>
          rw [split] at h ih
          rcases List.mem_cons.1 h with rfl | h
          · have := ih (List.mem_cons_self ..)
            simp [differs, this]
          · exact ih (List.mem_cons_of_mem _ h)

end EnumHeader.Text

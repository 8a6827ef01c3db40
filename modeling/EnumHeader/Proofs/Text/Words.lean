import EnumHeader.Proofs.Text.Identifier
import EnumHeader.Text.Words
import Mathlib.Tactic.SplitIfs

/-!
# Names in upper case

A name is rewritten in upper case cluster by cluster: an underscore stays where it is, and another one
is put in where a word ends inside a run of letters and digits. So the upper-case form of a name has
the shape of a name, wherever the name has underscores and digits.
-/

namespace EnumHeader.Text

set_option autoImplicit false

/-- The parts of a name in upper case, with an underscore for each separator and after each word
that ends without one. -/
def snake : List (List Char) → List Char
  | [] => []
  | cluster :: rest =>
      if isSeparator cluster then '_' :: snake rest
      else if endsWord cluster rest then upper cluster ++ '_' :: snake rest
      else upper cluster ++ snake rest

theorem words_ne_nil (parts : List (List Char)) : words parts ≠ [] := by
  cases parts with
  | nil => simp [words]
  | cons cluster rest =>
      unfold words
      split_ifs
      · simp
      · simp
      · cases words rest <;> simp [consToFirst]

theorem joined_words (parts : List (List Char)) :
    List.intercalate ['_'] ((words parts).map fun word => upper word.flatten) = snake parts := by
  induction parts with
  | nil => rfl
  | cons cluster rest ih =>
      have more : (words rest).map (fun word => upper word.flatten) ≠ [] := by
        simpa using words_ne_nil rest
      unfold words snake
      split_ifs with separator ends
      · rw [List.map_cons, List.intercalate_cons_of_ne_nil more, ih]
        rfl
      · rw [List.map_cons, List.intercalate_cons_of_ne_nil more, ih]
        simp
      · rw [← ih]
        -- the cluster goes on with the first word of the rest
        cases others : words rest with
        | nil => exact absurd others (words_ne_nil rest)
        | cons next later =>
            cases later with
            | nil => simp [consToFirst, upper_append]
            | cons after later => simp [consToFirst, upper_append]

theorem upper_snake_eq (name : String) :
    (upperSnake name).toList = snake (clusters name.toList) := by
  rw [← joined_words]
  simp [upperSnake, String.toList_intercalate, Function.comp_def]

section Names

variable {text : List Char}

theorem parts_of_snake (parts : ∀ c ∈ text, isNamePart c = true) :
    ∀ c ∈ snake (text.map ([·])), isNamePart c = true := by
  induction text with
  | nil => exact nofun
  | cons first rest ih =>
      simp only [List.forall_mem_cons] at parts
      have capital : ∀ c ∈ upper [first], isNamePart c = true :=
        parts_of_upper (by simpa using parts.1)
      have underscore : isNamePart '_' = true := by decide
      rw [List.map_cons, snake]
      split_ifs
      · simpa using ⟨underscore, ih parts.2⟩
      · simp only [List.forall_mem_append, List.forall_mem_cons]
        exact ⟨capital, underscore, ih parts.2⟩
      · simp only [List.forall_mem_append]
        exact ⟨capital, ih parts.2⟩

/-- A name that starts with an underscore keeps it, even if a digit comes next. -/
theorem is_name_shaped_snake (shaped : isNameShaped text = true) :
    isNameShaped (snake (text.map ([·]))) = true := by
  cases text with
  | nil => exact shaped
  | cons first rest =>
      have parts := parts_of_name shaped
      simp only [List.forall_mem_cons] at parts
      have later := parts_of_snake parts.2
      simp only [isNameShaped, Bool.and_eq_true] at shaped
      have capital : isNameShaped (upper [first]) = true :=
        is_name_shaped_upper (by simpa [isNameShaped] using shaped.1)
      have underscore : isNamePart '_' = true := by decide
      rw [List.map_cons, snake]
      split_ifs
      · exact is_name_shaped_append (rfl : isNameShaped ['_'] = true) later
      · apply is_name_shaped_append capital
        simpa only [List.forall_mem_cons] using ⟨underscore, later⟩
      · exact is_name_shaped_append capital later

variable {name : String}

/-- Names are ASCII, so that each of their characters is a cluster. -/
theorem upper_snake_of_name (shaped : isNameShaped name.toList = true) :
    (upperSnake name).toList = snake (name.toList.map ([·])) := by
  have small : ∀ c ∈ name.toList, c.toNat < 128 :=
    fun c member => ascii_of_name_part (parts_of_name shaped c member)
  rw [upper_snake_eq, clusters_of_ascii small]

theorem is_name_shaped_upper_snake (shaped : isNameShaped name.toList = true) :
    isNameShaped (upperSnake name).toList = true := by
  rw [upper_snake_of_name shaped]
  exact is_name_shaped_snake shaped

end Names

end EnumHeader.Text

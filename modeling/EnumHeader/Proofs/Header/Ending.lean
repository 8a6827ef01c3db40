import EnumHeader.Header
import EnumHeader.Proofs.Cpp.Rows
import Mathlib.Data.List.Basic

/-!
# The lines of a header

A header is split at its line feeds whatever its line ending, so that in one of the two ways to end
lines a carriage return is left at the end of each.
-/

namespace EnumHeader.Header

set_option autoImplicit false

def linesOf (text : String) : List (List Char) :=
  text.toList.splitOn '\n'

def returns : LineEnding → List Char
  | .lf => []
  | .crlf => ['\r']

theorem returns_of_text {lines : List (List Char)} (single : ∀ line ∈ lines, '\n' ∉ line) :
    (Cpp.textOf lines).flatMap (fun c => if c = '\n' then ['\r', '\n'] else [c]) =
      Cpp.textOf (lines.map (· ++ ['\r'])) := by
  induction lines with
  | nil => rfl
  | cons line rest ih =>
      simp only [List.forall_mem_cons] at single
      have kept : line.flatMap (fun c => if c = '\n' then ['\r', '\n'] else [c]) = line := by
        have each : ∀ c ∈ line, (if c = '\n' then ['\r', '\n'] else [c]) = [c] := by
          intro c member
          apply if_neg
          rintro rfl
          exact single.1 member
        rw [List.flatMap_congr each]
        exact List.flatMap_singleton' line
      have split : Cpp.textOf (line :: rest) = (line ++ ['\n']) ++ Cpp.textOf rest := rfl
      rw [split, List.flatMap_append, List.flatMap_append, kept, ih single.2]
      simp [Cpp.textOf]

theorem end_lines_of_text (ending : LineEnding) {text : String} {lines : List (List Char)}
    (chars : text.toList = Cpp.textOf lines) (single : ∀ line ∈ lines, '\n' ∉ line) :
    linesOf (endLines ending text) = lines.map (· ++ returns ending) ++ [[]] := by
  have ended : (endLines ending text).toList = Cpp.textOf (lines.map (· ++ returns ending)) := by
    cases ending with
    | lf => simpa [endLines, returns] using chars
    | crlf =>
        simp only [endLines, String.toList_ofList, chars, returns]
        exact returns_of_text single
  have alone : ∀ line ∈ lines.map (· ++ returns ending), '\n' ∉ line := by
    intro row member
    obtain ⟨line, inside, rfl⟩ := List.mem_map.1 member
    cases ending <;> simpa [returns] using single line inside
  exact (congrArg _ ended).trans (Cpp.split_text_of alone)

end EnumHeader.Header

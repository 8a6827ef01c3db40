import EnumHeader.Path
import Mathlib.Data.List.Induction
import Mathlib.Data.List.Infix

/-!
# Paths of plain names

A path that comes down from the root by plain names has the places above it as its ancestors, each
again a path of plain names, and a name is joined to one of them by being put behind.
-/

namespace EnumHeader.Path

set_option autoImplicit false

/-- A segment that leads one step down. -/
def IsPlain (segment : String) : Prop :=
  isHollow segment = false ∧ segment ≠ ".."

instance (segment : String) : Decidable (IsPlain segment) :=
  inferInstanceAs (Decidable (_ ∧ _))

variable {front names : List String} {last : String}

theorem without_slash_of_name {path : Path} (named : ¬path.EndsInSlash) :
    path.withoutSlash = path := by
  have kept : path.segments.reverse.dropWhile (· == "") = path.segments.reverse := by
    unfold EndsInSlash at named
    rw [List.getLast?_eq_head?_reverse] at named
    cases reversed : path.segments.reverse with
    | nil => rfl
    | cons last front =>
        have written : (last == "") = false := by simpa [reversed] using named
        rw [List.dropWhile_cons_of_neg (by simp [written])]
  rw [withoutSlash, kept, List.reverse_reverse]

theorem drop_hollow_plain (plain : ∀ name ∈ names, IsPlain name) :
    names.reverse.dropWhile isHollow = names.reverse := by
  cases reversed : names.reverse with
  | nil => rfl
  | cons last front =>
      have member : last ∈ names := by
        rw [← List.mem_reverse, reversed]
        exact List.mem_cons_self
      rw [List.dropWhile_cons_of_neg (by simp [(plain last member).1])]

theorem parent_plain (plain : ∀ name ∈ front ++ [last], IsPlain name) :
    parent? ⟨.root, front ++ [last]⟩ = some ⟨.root, front⟩ := by
  have above : ∀ name ∈ front, IsPlain name := fun name member =>
    plain name (List.mem_append_left _ member)
  have kept := drop_hollow_plain plain
  rw [List.reverse_concat] at kept
  unfold parent? backwards
  simp only [List.reverse_concat, kept, drop_hollow_plain above, List.reverse_reverse]

/-- Going up from the place of plain names leaves out the last name, and then one more each time. -/
theorem ancestors_plain (plain : ∀ name ∈ names, IsPlain name) :
    ancestors ⟨.root, names⟩ = names.inits.reverse.map fun above => ⟨.root, above⟩ := by
  induction names using List.reverseRecOn with
  | nil =>
      have top : parent? ⟨.root, []⟩ = none := rfl
      unfold ancestors
      split
      next found => cases top.symm.trans found
      next => rfl
  | append_singleton front last ih =>
      have parent := parent_plain plain
      unfold ancestors
      split
      next above found =>
        obtain rfl := Option.some.inj (found.symm.trans parent)
        rw [ih fun name inside => plain name (List.mem_append_left _ inside), List.inits_append]
        simp
      next found => cases found.symm.trans parent

theorem plain_of_mem_ancestors (plain : ∀ name ∈ names, IsPlain name) {path : Path}
    (member : path ∈ ancestors ⟨.root, names⟩) :
    ∃ above, path = ⟨.root, above⟩ ∧ ∀ name ∈ above, IsPlain name := by
  rw [ancestors_plain plain] at member
  obtain ⟨above, inside, rfl⟩ := List.mem_map.1 member
  rw [List.mem_reverse, List.mem_inits] at inside
  exact ⟨above, rfl, fun name named => plain name (inside.subset named)⟩

theorem join_plain (plain : ∀ name ∈ names, IsPlain name) (start : Start) (name : String) :
    join ⟨start, names⟩ name = ⟨start, names ++ [name]⟩ := by
  have named : names.getLast? ≠ some "" := by
    intro ends
    have hollow := (plain "" (List.mem_of_getLast? ends)).1
    cases hollow
  simp only [join, named, if_false]

end EnumHeader.Path

import EnumHeader.Integer

/-!
# Sets of values

The distinct values of an enum in ascending order, and the two kinds of gap-free sets: a run of
consecutive integers, and flags whose set bits form one block.
-/

namespace EnumHeader.ValueSet

set_option autoImplicit false

def insert (value : Int) : List Int → List Int
  | [] => [value]
  | first :: rest =>
      if value < first then value :: first :: rest
      else if value = first then first :: rest
      else first :: insert value rest

/-- The distinct values, ascending. -/
def ofList (values : List Int) : List Int :=
  values.foldr insert []

/-- Halves an ascending list until one value is left to compare with. -/
def search (values : List Int) (sought : Int) : Bool :=
  if several : 2 ≤ values.length then
    let half := values.length / 2
    have inside : half < values.length := by omega
    if sought < values[half] then search (values.take (values.length - half)) sought
    else search (values.drop half) sought
  else values.head? == some sought
  termination_by values.length
  decreasing_by
    · simp only [List.length_take]
      omega
    · simp only [List.length_drop]
      omega

/-- Each value is one more than the value before it. -/
def isRun : List Int → Bool
  | first :: second :: rest => second - first == 1 && isRun (second :: rest)
  | _ => true

def usedBits (values : List Int) : Nat :=
  values.foldl (fun mask value => mask ||| Integer.pattern value) 0

/-- A number without the zeros at the low end of its binary numeral. -/
def oddPart (n : Nat) : Nat :=
  if n = 0 then 0 else if n % 2 = 0 then oddPart (n / 2) else n
  termination_by n
  decreasing_by omega

def isBlock (mask : Nat) : Bool :=
  oddPart mask &&& (oddPart mask + 1) == 0

theorem mem_insert {value other : Int} {values : List Int} :
    other ∈ insert value values ↔ other = value ∨ other ∈ values := by
  induction values with
  | nil => simp [insert]
  | cons first rest ih =>
      unfold insert
      split
      · simp
      · split
        · simp_all
        · simp only [List.mem_cons, ih]
          grind

theorem mem_of_list_iff {other : Int} {values : List Int} :
    other ∈ ofList values ↔ other ∈ values := by
  induction values with
  | nil => simp [ofList]
  | cons first rest ih =>
      simp only [ofList, List.foldr_cons, mem_insert, List.mem_cons] at ih ⊢
      rw [ih]

end EnumHeader.ValueSet

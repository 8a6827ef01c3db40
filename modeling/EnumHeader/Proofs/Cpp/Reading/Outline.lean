import EnumHeader.Proofs.Cpp.Reading.Lines

/-!
# Outlines

The lines of a scope as its parts: every line that stands directly in the scope, with the block that
follows it. How deep a line stands is told by the braces alone, which have lines of their own, apart
from the one that ends the first line of a table.
-/

namespace EnumHeader.Cpp.Reading

set_option autoImplicit false

/-- A line of a scope and the lines of the block that follows it, braces included. -/
structure Part where
  head : String
  block : List String
  deriving Repr, DecidableEq, Inhabited

def tableStart : List Char :=
  "static constexpr std::array<".toList

def opensTable (line : String) : Bool :=
  tableStart.isPrefixOf line.toList && line.toList.getLast? == some '{'

def closers : List String :=
  ["\x7d", "\x7d;", "\x7d\x7d;"]

def depthPast (depth : Nat) (line : String) : Nat :=
  if line = "\x7b" ∨ opensTable line = true then depth + 1
  else if line ∈ closers then depth - 1
  else depth

/-- The lines up to the first that stands directly in the scope, and the parts from there on. -/
def outline (depth : Nat) : List String → List String × List Part
  | [] => ([], [])
  | line :: rest =>
      let later := outline (depthPast depth line) rest
      if depth ≠ 0 ∨ line = "\x7b" then (line :: later.1, later.2)
      else ([], ⟨line, later.1⟩ :: later.2)

def enclosed (closer : String) : List String → Option (List String)
  | [] => none
  | opener :: inner =>
      if opener = "\x7b" ∧ inner.getLast? = some closer then some inner.dropLast else none

theorem enclosed_block (closer : String) (inner : List String) :
    enclosed closer ("\x7b" :: (inner ++ [closer])) = some inner := by
  simp [enclosed]

section Lines

/-- The line leaves the depth as it is. -/
structure Plain (line : String) : Prop where
  opener : line ≠ "\x7b"
  table : opensTable line = false
  closer : line ∉ closers

theorem Plain.depth {line : String} (plain : Plain line) (depth : Nat) :
    depthPast depth line = depth := by
  simp [depthPast, plain.opener, plain.table, plain.closer]

def First (c : Char) (text : String) : Prop :=
  text.toList.head? = some c

def Last (c : Char) (text : String) : Prop :=
  text.toList.getLast? = some c

theorem First.append {c : Char} {text : String} (first : First c text) (more : String) :
    First c (text ++ more) := by
  unfold First
  rw [String.toList_append, List.head?_append, first]
  rfl

theorem Last.append {c : Char} {text : String} (last : Last c text) (before : String) :
    Last c (before ++ text) := by
  unfold Last
  rw [String.toList_append, List.getLast?_append, last]
  rfl

theorem First.unique {c d : Char} {text : String} (first : First c text) (other : First d text) :
    c = d :=
  Option.some.inj (first.symm.trans other)

theorem Last.unique {c d : Char} {text : String} (last : Last c text) (other : Last d text) :
    c = d :=
  Option.some.inj (last.symm.trans other)

theorem first_of_closer : ∀ closer ∈ closers, First '}' closer := by
  unfold First
  decide

theorem last_of_closer : ∀ closer ∈ closers, Last '}' closer ∨ Last ';' closer := by
  unfold Last
  decide

variable {line : String} {c d : Char}

theorem not_table_of_last (last : Last c line) (other : c ≠ '{') : opensTable line = false := by
  unfold opensTable
  rw [show line.toList.getLast? = some c from last]
  simp [other]

theorem not_table_of_first (first : First c line) (other : c ≠ 's') : opensTable line = false := by
  have start : tableStart.isPrefixOf line.toList = false := by
    rw [Bool.eq_false_iff]
    intro starts
    obtain ⟨more, whole⟩ := List.isPrefixOf_iff_prefix.1 starts
    have letter : First 's' line := by
      unfold First
      rw [← whole]
      rfl
    exact other (first.unique letter)
  simp [opensTable, start]

theorem not_closer_of_first (first : First c line) (other : c ≠ '}') : line ∉ closers := by
  intro closes
  exact other (first.unique (first_of_closer line closes))

theorem not_opener_of_first (first : First c line) (other : c ≠ '{') : line ≠ "\x7b" := by
  intro same
  rw [same] at first
  exact other (first.unique rfl)

theorem plain_of_ends (first : First c line) (last : Last d line) (start : c ≠ '{')
    (unclosed : c ≠ '}') (ending : d ≠ '{') : Plain line where
  opener := not_opener_of_first first start
  table := not_table_of_last last ending
  closer := not_closer_of_first first unclosed

theorem plain_of_first (first : First c line) (start : c ∉ ['{', '}', 's']) : Plain line := by
  simp only [List.mem_cons, List.not_mem_nil, or_false, not_or] at start
  constructor
  · exact not_opener_of_first first start.1
  · exact not_table_of_first first start.2.2
  · exact not_closer_of_first first start.2.1

theorem plain_of_last (last : Last c line) (ending : c ∉ ['{', '}', ';']) : Plain line := by
  simp only [List.mem_cons, List.not_mem_nil, or_false, not_or] at ending
  constructor
  · intro same
    rw [same] at last
    exact ending.1 (last.unique rfl)
  · exact not_table_of_last last ending.1
  · intro closes
    rcases last_of_closer line closes with brace | semicolon
    · exact ending.2.1 (last.unique brace)
    · exact ending.2.2 (last.unique semicolon)

theorem plain_of_long (before : String) {ending : String} (last : Last c ending)
    (other : c ≠ '{') (long : 4 ≤ ending.toList.length) : Plain (before ++ ending) := by
  have longer : 4 ≤ (before ++ ending).toList.length := by
    rw [String.toList_append, List.length_append]
    omega
  constructor
  · intro same
    rw [same] at longer
    exact absurd longer (by decide)
  · exact not_table_of_last (last.append before) other
  · intro closes
    have short : ∀ closer ∈ closers, ¬4 ≤ closer.toList.length := by decide
    exact short _ closes longer

end Lines

section Nested

/-- Lines that a block takes in, whatever follows them and however deep it stands. -/
def Nested (lines : List String) : Prop :=
  ∀ (depth : Nat) (rest : List String),
    outline (depth + 1) (lines ++ rest) =
      (lines ++ (outline (depth + 1) rest).1, (outline (depth + 1) rest).2)

theorem nested_nil : Nested [] := by
  intro depth rest
  rfl

theorem Nested.append {first second : List String} (left : Nested first) (right : Nested second) :
    Nested (first ++ second) := by
  intro depth rest
  rw [List.append_assoc, left, right, List.append_assoc]

theorem nested_line {line : String} (plain : Plain line) : Nested [line] := by
  intro depth rest
  simp [outline, plain.depth]

theorem nested_lines {lines : List String} (plain : ∀ line ∈ lines, Plain line) :
    Nested lines := by
  induction lines with
  | nil => exact nested_nil
  | cons line rest ih =>
      rw [List.forall_mem_cons] at plain
      exact (nested_line plain.1).append (ih plain.2)

theorem depth_past_opener (depth : Nat) : depthPast depth "\x7b" = depth + 1 := by
  simp [depthPast]

theorem depth_past_closer (depth : Nat) {closer : String} (closes : closer ∈ closers) :
    depthPast (depth + 1) closer = depth := by
  have opener : closer ≠ "\x7b" := by
    intro same
    rw [same] at closes
    exact absurd closes (by decide)
  have table : opensTable closer = false := by
    simp only [closers, List.mem_cons, List.not_mem_nil, or_false] at closes
    rcases closes with rfl | rfl | rfl <;> decide
  simp [depthPast, opener, table, closes]

theorem outline_closer (depth : Nat) {closer : String} (closes : closer ∈ closers)
    (rest : List String) :
    outline (depth + 1) (closer :: rest) =
      (closer :: (outline depth rest).1, (outline depth rest).2) := by
  simp [outline, depth_past_closer depth closes]

theorem Nested.block {head : String} {inner : List String} (plain : Plain head)
    (nested : Nested inner) : Nested (head :: "\x7b" :: (inner ++ ["\x7d"])) := by
  intro depth rest
  have closing := outline_closer (depth + 1) (by decide : "\x7d" ∈ closers) rest
  have opened := nested (depth + 1) ("\x7d" :: rest)
  rw [closing] at opened
  simp [outline, plain.depth, depth_past_opener, opened]

end Nested

section Parts

/-- Lines that are read as those parts, whatever part follows them. -/
def Outlines (lines : List String) (parts : List Part) : Prop :=
  ∀ rest, (outline 0 rest).1 = [] →
    outline 0 (lines ++ rest) = ([], parts ++ (outline 0 rest).2)

theorem outlines_nil : Outlines [] [] := by
  intro rest begins
  exact Prod.ext begins rfl

theorem Outlines.append {first second : List String} {left right : List Part}
    (begins : Outlines first left) (ends : Outlines second right) :
    Outlines (first ++ second) (left ++ right) := by
  intro rest next
  have later := ends rest next
  rw [List.append_assoc, begins _ (by rw [later]), later, List.append_assoc]

theorem outlines_line {line : String} (plain : Plain line) : Outlines [line] [⟨line, []⟩] := by
  intro rest next
  simp [outline, plain.depth, plain.opener, next]

theorem outlines_block {head closer : String} {inner : List String} (plain : Plain head)
    (nested : Nested inner) (closes : closer ∈ closers) :
    Outlines (head :: "\x7b" :: (inner ++ [closer]))
      [⟨head, "\x7b" :: (inner ++ [closer])⟩] := by
  intro rest next
  have opened := nested 0 (closer :: rest)
  rw [outline_closer 0 closes, next] at opened
  simp only [List.cons_append, List.append_assoc, List.nil_append, outline, plain.depth,
    plain.opener, depth_past_opener, opened]
  simp

theorem outlines_table {head closer : String} {rows : List String} (table : opensTable head = true)
    (nested : Nested rows) (closes : closer ∈ closers) :
    Outlines (head :: (rows ++ [closer])) [⟨head, rows ++ [closer]⟩] := by
  intro rest next
  have opener : head ≠ "\x7b" := by
    intro same
    rw [same] at table
    exact absurd table (by decide)
  have deeper : depthPast 0 head = 1 := by simp [depthPast, table]
  have opened := nested 0 (closer :: rest)
  rw [outline_closer 0 closes, next] at opened
  simp only [List.cons_append, List.append_assoc, List.nil_append, outline, deeper, opener, opened]
  simp

theorem Outlines.whole {lines : List String} {parts : List Part} (reads : Outlines lines parts) :
    outline 0 lines = ([], parts) := by
  have ended := reads [] rfl
  simpa [outline] using ended

end Parts

end EnumHeader.Cpp.Reading

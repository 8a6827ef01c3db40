import EnumHeader.Cpp.Quotation
import EnumHeader.Text.Identifier
import Mathlib.Tactic.ByContra

/-!
# Tokens of generated source

How a compiler cuts the text of a function body into words, numbers, operators and string literals.
A literal keeps what stands between its quotes; its escapes are undone later. Comments and
directives do not occur in the bodies that are read, and they are not treated here.
-/

namespace EnumHeader.Cpp.Reading

set_option autoImplicit false

inductive Token where
  | word (name : String)
  | number (text : List Char)
  | quote (stringType : StringType) (body : List Char)
  | mark (symbol : String)
  /-- A string literal that its line does not close. -/
  | unclosed
  deriving Repr, DecidableEq, Inhabited

/-- Characters that form operators of more than one character. -/
def isOperator (c : Char) : Bool :=
  ['<', '>', '=', '&', '|', '-', '+', '!', '~', '^', ':', '*', '/', '%'].contains c

def isBlank (c : Char) : Bool :=
  [' ', '\t', '\r', '\n'].contains c

/-- A word, or a number if it starts with a digit. -/
def Token.ofWord (text : List Char) : Token :=
  if (text.head?.map Char.isDigit).getD false then .number text else .word (String.ofList text)

inductive Pending where
  | nothing
  | word (text : List Char)
  | mark (symbol : List Char)
  /-- Inside a literal; `escaped` after a backslash. -/
  | quote (stringType : StringType) (body : List Char) (escaped : Bool)
  deriving Repr, DecidableEq, Inhabited

namespace Pending

def finish : Pending → List Token
  | .nothing => []
  | .word text => [.ofWord text]
  | .mark symbol => [.mark (String.ofList symbol)]
  | .quote .. => [.unclosed]

def start (c : Char) : List Token × Pending :=
  if Text.isNamePart c then ([], .word [c])
  else if isOperator c then ([], .mark [c])
  else if c = '"' then ([], .quote .narrow [] false)
  else if isBlank c then ([], .nothing)
  else ([.mark (String.singleton c)], .nothing)

/-- One more character: the tokens that it completes, and what is pending after it. -/
def take : Pending → Char → List Token × Pending
  | .nothing, c => start c
  | .word text, c =>
      if Text.isNamePart c then ([], .word (text ++ [c]))
      else if text = ['L'] ∧ c = '"' then ([], .quote .wide [] false)
      else (.ofWord text :: (start c).1, (start c).2)
  | .mark symbol, c =>
      if isOperator c then ([], .mark (symbol ++ [c]))
      else (.mark (String.ofList symbol) :: (start c).1, (start c).2)
  | .quote stringType body escaped, c =>
      if c = '\n' then ([.unclosed], .nothing)
      else if escaped then ([], .quote stringType (body ++ [c]) false)
      else if c = '"' then ([.quote stringType body], .nothing)
      else ([], .quote stringType (body ++ [c]) (c = '\\'))

end Pending

/-- The tokens of a text, the first of which may have begun already. -/
def scan (pending : Pending) : List Char → List Token
  | [] => pending.finish
  | c :: rest => (pending.take c).1 ++ scan (pending.take c).2 rest

def tokens (text : String) : List Token :=
  scan .nothing text.toList

def advance (pending : Pending) : List Char → List Token × Pending
  | [] => ([], pending)
  | c :: rest =>
      ((pending.take c).1 ++ (advance (pending.take c).2 rest).1, (advance (pending.take c).2 rest).2)

theorem scan_append (pending : Pending) (text rest : List Char) :
    scan pending (text ++ rest) =
      (advance pending text).1 ++ scan (advance pending text).2 rest := by
  induction text generalizing pending with
  | nil => rfl
  | cons c text ih => simp [scan, advance, ih]

theorem scan_piece {pending next : Pending} {text : List Char} {completed : List Token}
    (piece : advance pending text = (completed, next)) (rest : List Char) :
    scan pending (text ++ rest) = completed ++ scan next rest := by
  rw [scan_append, piece]

theorem scan_blank {c : Char} (blank : isBlank c = true) (rest : List Char) :
    scan .nothing (c :: rest) = scan .nothing rest := by
  simp only [isBlank, List.contains_iff_mem, List.mem_cons, List.not_mem_nil, or_false] at blank
  rcases blank with rfl | rfl | rfl | rfl <;> rfl

/-- The text after a word or number does not go on with it. -/
def Separate (rest : List Char) : Prop :=
  ∀ c, rest.head? = some c → Text.isNamePart c = false ∧ c ≠ '"'

def Separates (text : List Char) : Prop :=
  match text with
  | [] => False
  | c :: _ => Text.isNamePart c = false ∧ c ≠ '"'

instance : (text : List Char) → Decidable (Separates text)
  | [] => isFalse id
  | _ :: _ => inferInstanceAs (Decidable (_ ∧ _))

theorem separate_append {text : List Char} (separates : Separates text) (rest : List Char) :
    Separate (text ++ rest) := by
  cases text with
  | nil => exact separates.elim
  | cons first more =>
      intro c next
      obtain rfl : first = c := by simpa using next
      exact separates

theorem separate_nil : Separate [] :=
  nofun

theorem separate_of_separates {text : List Char} (separates : Separates text) : Separate text := by
  simpa using separate_append separates []

theorem scan_word_end (text rest : List Char) (separate : Separate rest) :
    scan (.word text) rest = .ofWord text :: scan .nothing rest := by
  cases rest with
  | nil => rfl
  | cons c rest =>
      obtain ⟨outside, unquoted⟩ := separate c rfl
      simp [scan, Pending.take, outside, unquoted]

theorem scan_word_inside (text : List Char) {more : List Char}
    (inside : ∀ c ∈ more, Text.isNamePart c = true) (rest : List Char) (separate : Separate rest) :
    scan (.word text) (more ++ rest) = .ofWord (text ++ more) :: scan .nothing rest := by
  induction more generalizing text with
  | nil => simpa using scan_word_end text rest separate
  | cons c more ih =>
      have part := inside c (by simp)
      have later := ih (text ++ [c])
        fun other member => inside other (List.mem_cons_of_mem c member)
      simp only [List.append_assoc, List.singleton_append] at later
      simp [scan, Pending.take, part, later]

/-- A maximal run of letters, digits and underscores is one token. -/
theorem scan_word {text : List Char} (nonempty : text ≠ [])
    (inside : ∀ c ∈ text, Text.isNamePart c = true) (rest : List Char) (separate : Separate rest) :
    scan .nothing (text ++ rest) = .ofWord text :: scan .nothing rest := by
  cases text with
  | nil => exact absurd rfl nonempty
  | cons c more =>
      have part := inside c (by simp)
      have later := scan_word_inside [c]
        (fun other member => inside other (List.mem_cons_of_mem c member)) rest separate
      simpa [scan, Pending.take, Pending.start, part] using later

theorem part_not_operator {c : Char} (part : Text.isNamePart c = true) : isOperator c = false := by
  by_contra operator
  simp only [isOperator, List.contains_iff_mem, List.mem_cons, List.not_mem_nil, or_false,
    Bool.not_eq_false] at operator
  rcases operator with rfl | rfl | rfl | rfl | rfl | rfl | rfl | rfl | rfl | rfl | rfl | rfl |
    rfl | rfl <;> exact absurd part (by decide)

theorem scan_mark_word {text : List Char} (nonempty : text ≠ [])
    (parts : ∀ c ∈ text, Text.isNamePart c = true) (symbol rest : List Char) :
    scan (.mark symbol) (text ++ rest) =
      .mark (String.ofList symbol) :: scan .nothing (text ++ rest) := by
  cases text with
  | nil => exact absurd rfl nonempty
  | cons c more => simp [scan, Pending.take, part_not_operator (parts c (by simp))]

end EnumHeader.Cpp.Reading

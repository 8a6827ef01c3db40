import EnumHeader.Cpp.Member
import EnumHeader.Proofs.Cpp.Reading.Number
import EnumHeader.Proofs.Cpp.Reading.Outline

/-!
# Declarations of a struct

What the parts of a struct declare, read from their lines. The names of definitions and entries may
be any text, so a line is read from its ends: the name of a function stands before the last opening
parenthesis, and a short constant says its name twice.
-/

namespace EnumHeader.Cpp

set_option autoImplicit false

namespace Reading

inductive Declaration where
  | alias (name target : String)
  | enumeration (name : String) (lines : List String)
  | constant (name : String)
  | record (name : String)
  | table (elementType name : String) (size : Nat) (rows : List String)
  | function (name parameters : String) (body : List String)
  | field (name : String)
  deriving Repr, DecidableEq, Inhabited

def firstWord (text : List Char) : List Char :=
  text.takeWhile (· ≠ ' ')

def afterWord (text : List Char) : List Char :=
  (text.dropWhile (· ≠ ' ')).tail

def splitLast (c : Char) : List Char → Option (List Char × List Char)
  | [] => none
  | d :: rest =>
      match splitLast c rest with
      | some (before, after) => some (d :: before, after)
      | none => if d = c then some ([], rest) else none

def readAlias (text : List Char) : Declaration :=
  .alias (String.ofList (firstWord text))
    (String.ofList (afterWord (afterWord text)).dropLast)

/-- A short constant is named like the constant that it stands for, so its name is what stands on
both sides. -/
def readShort (text : List Char) : Option Declaration :=
  let name := text.take ((text.length - " = Value::;".toList.length) / 2)
  if text = name ++ " = Value::".toList ++ name ++ [';'] then
    some (.constant (String.ofList name))
  else none

/-- What the first line of a table says of its elements, their number and its name. -/
def readTableHead : List Token → Option (String × Nat × String)
  | [.word "static", .word "constexpr", .word "std", .mark "::", .word "array", .mark "<",
      .word elementType, .mark ",", .number size, .mark ">", .word name, .mark "=", .mark "\x7b",
      .mark "\x7b"] =>
      match readNumber size with
      | some (.integer count _ _) => some (elementType, count, name)
      | _ => none
  | _ => none

def readTable (part : Part) : Option Declaration := do
  let (elementType, size, name) ← readTableHead (tokens part.head)
  if part.block.getLast? = some "\x7d\x7d;" then
    some (.table elementType name size part.block.dropLast)
  else none

def conversionLead : List Char :=
  "constexpr operator".toList

def readFunction (part : Part) : Option Declaration := do
  let (before, after) ← splitLast '(' part.head.toList
  let (lead, name) ← splitLast ' ' before
  let body ← enclosed "\x7d" part.block
  if lead = conversionLead then none
  else
    some (.function (String.ofList name) (String.ofList (after.takeWhile (· ≠ ')'))) body)

def readLastName (text : List Char) : Option Declaration := do
  let (_, name) ← splitLast ' ' text.dropLast
  if text.getLast? = some ';' then some (.field (String.ofList name)) else none

/-- Friends, constructors and conversions declare no name in the struct. -/
def readPart (part : Part) : Option Declaration :=
  let text := part.head.toList
  let word := String.ofList (firstWord text)
  let rest := afterWord text
  if word = "using" then some (readAlias rest)
  else if word = "enum" then
    (enclosed "\x7d;" part.block).map
      (.enumeration (String.ofList (firstWord (afterWord rest))))
  else if word = "struct" then
    (enclosed "\x7d;" part.block).map fun _ => .record (String.ofList rest)
  else if word = "static" then
    if part.block = [] then readShort (afterWord (afterWord rest)) else readTable part
  else if word = "friend" then none
  else if part.block = [] then readLastName text
  else readFunction part

def declaringWords : List String :=
  ["using", "enum", "struct", "static", "friend"]

section Words

theorem other_of_single {word : List Char} (single : ' ' ∉ word) :
    ∀ c ∈ word, decide (c ≠ ' ') = true := by
  intro c member
  have other : c ≠ ' ' := fun same => single (same ▸ member)
  simpa using other

theorem first_word_append {word : List Char} (single : ' ' ∉ word) (rest : List Char) :
    firstWord (word ++ ' ' :: rest) = word := by
  unfold firstWord
  rw [List.takeWhile_append_of_pos (other_of_single single)]
  simp

theorem after_word_append {word : List Char} (single : ' ' ∉ word) (rest : List Char) :
    afterWord (word ++ ' ' :: rest) = rest := by
  unfold afterWord
  rw [List.dropWhile_append_of_pos (other_of_single single)]
  simp

theorem split_last_eq_none {c : Char} {text : List Char} (absent : c ∉ text) :
    splitLast c text = none := by
  induction text with
  | nil => rfl
  | cons d rest ih =>
      rw [List.mem_cons, not_or] at absent
      have other : d ≠ c := fun same => absent.1 same.symm
      simp [splitLast, ih absent.2, other]

theorem split_last_append {c : Char} (before : List Char) {after : List Char}
    (absent : c ∉ after) : splitLast c (before ++ c :: after) = some (before, after) := by
  induction before with
  | nil => simp [splitLast, split_last_eq_none absent]
  | cons d rest ih => simp [splitLast, ih]

theorem read_short (name : List Char) :
    readShort (name ++ " = Value::".toList ++ name ++ [';']) =
      some (.constant (String.ofList name)) := by
  have marks : " = Value::;".toList.length = 11 ∧ " = Value::".toList.length = 10 := by decide
  have whole : (name ++ " = Value::".toList ++ name ++ [';']).length = 2 * name.length + 11 := by
    simp only [List.length_append, List.length_singleton, marks]
    omega
  have half : (2 * name.length + 11 - 11) / 2 = name.length := by omega
  have start : (name ++ " = Value::".toList ++ name ++ [';']).take name.length = name := by
    simp only [List.append_assoc]
    exact List.take_left' rfl
  unfold readShort
  simp only [whole, marks, half, start, if_true]

end Words

end Reading

open Reading (Declaration)

namespace Member

def declaration : Member → Option Declaration
  | .alias name target => some (.alias name target)
  | .enumeration name _ enumerators =>
      some (.enumeration name ((enumerators.flatMap Enumerator.steps).flatMap Step.written))
  | .constant name => some (.constant name)
  | .record name _ => some (.record name)
  | .table elementType name rows => some (.table elementType name rows.length rows)
  | .method content =>
      some (.function content.name content.parameters (content.body.flatMap Step.written))
  | .privateField _ name => some (.field name)
  | .gap | .constructor _ | .conversion .. | .friend .. => none

end Member

namespace Struct

variable (struct : Struct)

def lines : List String :=
  struct.steps.flatMap Step.written

def declarations : List Declaration :=
  struct.members.filterMap Member.declaration

end Struct

end EnumHeader.Cpp

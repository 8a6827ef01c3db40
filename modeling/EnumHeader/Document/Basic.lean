import EnumHeader.Document.Double
import EnumHeader.Document.Fault

/-!
# Documents

The value of a configuration or definition document, whatever its format. Tables are ordered lists:
a JSON object keeps the order and the repetitions of its text, a TOML table lists its keys in
ascending order. The order can be observed, because the first fault in it is the one reported.

A document can follow its grammar and still hold a value that nothing can be made of: a number
beyond all bounds, or a text with half of a surrogate pair. Such values stay in the document,
because what is skipped need not make sense.
-/

namespace EnumHeader.Document

set_option autoImplicit false

/-- A number with a fraction or an exponent. -/
inductive Real where
  | finite (negative : Bool) (size : Double)
  /-- Written in digits, but larger than every double. -/
  | tooLarge
  | infinite (negative : Bool)
  | notANumber
  deriving Repr, DecidableEq, Inhabited

def Real.ofSize (negative : Bool) (size : Option Double) : Real :=
  match size with
  | some double => .finite negative double
  | none => .tooLarge

/-- What a quoted text says. With half of a surrogate pair, which only JSON can write, it says
nothing. -/
abbrev Wording := Option String

inductive Node where
  | null
  | boolean (value : Bool)
  | integer (value : Int)
  | real (value : Real)
  | string (text : Wording)
  | datetime
  | array (elements : List Node)
  | table (fields : List (Wording × Node))
  deriving Repr, Inhabited

/-- The integers that can be used reach from the least signed to the largest unsigned number of 64
bits. -/
def IntegerFits (value : Int) : Prop :=
  -Int.pow 2 63 ≤ value ∧ value < Int.pow 2 64

instance (value : Int) : Decidable (IntegerFits value) :=
  inferInstanceAs (Decidable (_ ∧ _))

namespace Node

mutual

def everyLeaf (holds : Node → Bool) : Node → Bool
  | .array elements => everyElement holds elements
  | .table fields => everyField holds fields
  | leaf => holds leaf

def everyElement (holds : Node → Bool) : List Node → Bool
  | [] => true
  | first :: rest => everyLeaf holds first && everyElement holds rest

def everyField (holds : Node → Bool) : List (Wording × Node) → Bool
  | [] => true
  | (name, content) :: rest =>
      holds (.string name) && everyLeaf holds content && everyField holds rest

end

mutual

/-- How many arrays and tables lie around the innermost value, themselves counted. -/
def depth : Node → Nat
  | .array elements => 1 + elementsDepth elements
  | .table fields => 1 + fieldsDepth fields
  | _ => 0

def elementsDepth : List Node → Nat
  | [] => 0
  | first :: rest => max (depth first) (elementsDepth rest)

def fieldsDepth : List (Wording × Node) → Nat
  | [] => 0
  | (_, content) :: rest => max (depth content) (fieldsDepth rest)

end

def isUsable : Node → Bool
  | .integer value => decide (IntegerFits value)
  | .real .tooLarge => false
  | .string text => text.isSome
  | _ => true

/-- A leaf that can be looked at: its number fits 128 bits, signed or not, or is within the doubles.
-/
def isReadable : Node → Bool
  | .integer value => decide (-Int.pow 2 127 ≤ value ∧ value < Int.pow 2 128)
  | .real .tooLarge => false
  | _ => true

end Node

/-- Readers consume the front of a text and leave the rest. -/
abbrev Reader (α : Type) := List Char → Option (α × List Char)

def hexNumber? (digits : List Char) : Option Nat :=
  Text.readDigits 16 digits

end EnumHeader.Document

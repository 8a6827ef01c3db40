import EnumHeader.Proofs.Cpp.Reading.Statement
import EnumHeader.Storage
import Mathlib.Algebra.Group.Int.Defs

/-!
# What generated source computes

Function bodies are evaluated over mathematical integers. Arithmetic that a cast brings into the
storage type is two's complement of its width and signedness; comparisons take integers as they are.
Clashes of names and overload resolution are not modelled: a name in front of parentheses is taken
for the type that it names.
-/

namespace EnumHeader

set_option autoImplicit false

/-- The value of the storage type that is congruent to an integer. -/
def SizeType.wrap (sizeType : SizeType) (n : Int) : Int :=
  if sizeType.signed ∧ 2 ^ (sizeType.bits - 1) ≤ n % 2 ^ sizeType.bits then
    n % 2 ^ sizeType.bits - 2 ^ sizeType.bits
  else n % 2 ^ sizeType.bits

def SizeType.residue (sizeType : SizeType) (n : Int) : Nat :=
  (n % 2 ^ sizeType.bits).toNat

namespace Cpp.Reading

inductive Datum where
  | integer (value : Int)
  | boolean (value : Bool)
  | view (text : List Char)
  /-- An instance of the wrapper, by the value it holds. -/
  | wrapper (value : Int)
  | nothing
  | row (name : List Char) (value : Int)
  deriving Repr, DecidableEq, Inhabited

inductive Escape where
  | none
  | slash
  /-- An octal escape of this value, which so many digits may still follow. -/
  | octal (value left : Nat)
  deriving Repr, DecidableEq, Inhabited

def simpleEscape? (c : Char) : Option Char :=
  [('\\', '\\'), ('"', '"'), ('n', '\n'), ('r', '\r'), ('t', '\t'), ('?', '?')].lookup c

/-- Undoes the escapes of a string literal. Octal escapes take up to three digits. -/
def unescape : Escape → List Char → Option (List Char)
  | .none, [] => some []
  | .slash, [] => none
  | .octal value _, [] => some [Char.ofNat value]
  | .none, c :: rest =>
      if c = '\\' then unescape .slash rest else (unescape .none rest).map (c :: ·)
  | .slash, c :: rest =>
      match simpleEscape? c with
      | some plain => (unescape .none rest).map (plain :: ·)
      | none => do
          let digit ← Text.radixDigit? 8 c
          unescape (.octal digit 2) rest
  | .octal value left, c :: rest =>
      match Text.radixDigit? 8 c, left with
      | some digit, left + 1 => unescape (.octal (value * 8 + digit) left) rest
      | _, _ =>
          (if c = '\\' then unescape .slash rest else (unescape .none rest).map (c :: ·)).map
            (Char.ofNat value :: ·)

structure Scope where
  storage : SizeType
  owner : String := ""
  constant : String → Option Int := fun _ => none
  table : String → Option (List Datum) := fun _ => none
  /-- Parameters, the held value and the element of a loop. -/
  bindings : List (String × Datum) := []

namespace Scope

def bind (scope : Scope) (name : String) (value : Datum) : Scope :=
  { scope with bindings := (name, value) :: scope.bindings }

def named (scope : Scope) (path : List String) : Option Datum :=
  if path = ["true"] then some (.boolean true)
  else if path = ["false"] then some (.boolean false)
  else if path = ["std", "nullopt"] then some .nothing
  else
    match path with
    | [name] => scope.bindings.lookup name
    | [qualifier, name] =>
        if qualifier = "Value" then (scope.constant name).map .integer else none
    | _ => none

end Scope

def Operator.apply (storage : SizeType) : Operator → Datum → Datum → Option Datum
  | .and, .boolean left, .boolean right => some (.boolean (left && right))
  | .bitOr, .integer left, .integer right =>
      some (.integer
        (storage.wrap ((storage.residue left ||| storage.residue right : Nat) : Int)))
  | .equal, .integer left, .integer right => some (.boolean (left = right))
  | .equal, .view left, .view right => some (.boolean (left = right))
  | .lessEqual, .integer left, .integer right => some (.boolean (left ≤ right))
  | .greaterEqual, .integer left, .integer right => some (.boolean (right ≤ left))
  | .shiftLeft, .integer left, .integer right =>
      some (.integer (storage.wrap (left * 2 ^ right.toNat)))
  | .minus, .integer left, .integer right => some (.integer (left - right))
  | _, _, _ => none

def Scope.evaluate (scope : Scope) : Expression → Option Datum
  | .integer value _ _ => some (.integer value)
  | .text _ body => (unescape .none body).map .view
  | .name path => scope.named path
  | .negate operand =>
      match scope.evaluate operand with
      | some (.integer value) => some (.integer (-value))
      | _ => none
  | .binary operator left right => do
      let left ← scope.evaluate left
      let right ← scope.evaluate right
      operator.apply scope.storage left right
  | .cast typeName operand =>
      match scope.evaluate operand with
      | some (.integer value) =>
          if typeName = Literal.underlying then some (.integer (scope.storage.wrap value)) else none
      | _ => none
  | .empty path =>
      if path = ["std", "string_view"] ∨ path = ["std", "wstring_view"] then some (.view [])
      else none
  | .construct path argument =>
      match scope.evaluate argument with
      | some (.integer value) => if path = [scope.owner] then some (.wrapper value) else none
      | _ => none
  | .field path name =>
      match scope.named path with
      | some (.row text value) =>
          if name = "name" then some (.view text)
          else if name = "value" then some (.integer value)
          else none
      | _ => none

/-- Runs one item after the other until one gives a result. The outer option is empty when an item
cannot be run, the inner one when none gives a result. -/
def firstResult {Item : Type} (run : Item → Option (Option Datum)) :
    List Item → Option (Option Datum)
  | [] => some none
  | item :: rest =>
      match run item with
      | some none => firstResult run rest
      | outcome => outcome

def Statement.run : Statement → Scope → Option (Option Datum)
  | .give result, scope => (scope.evaluate result).map some
  | .test condition body, scope =>
      match scope.evaluate condition with
      | some (.boolean true) => body.run scope
      | some (.boolean false) => some none
      | _ => none
  | .each element table body, scope => do
      let rows ← scope.table table
      firstResult (fun row => body.run (scope.bind element row)) rows
  | .select subject arms, scope => do
      let value ← scope.evaluate subject
      firstResult
        (fun arm => do
          let label ← scope.evaluate arm.1
          if label = value then (scope.evaluate arm.2).map some else some none)
        arms

def result (scope : Scope) (body : List Statement) : Option Datum := do
  let outcome ← firstResult (fun statement => statement.run scope) body
  outcome

end Cpp.Reading

end EnumHeader

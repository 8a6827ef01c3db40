import EnumHeader.Cpp.Wrapper
import EnumHeader.Proofs.Cpp.Annotation
import EnumHeader.Proofs.Cpp.Reading.Declaration
import EnumHeader.Proofs.Cpp.Reading.Evaluation

/-!
# Calls of generated functions

A struct as it is read from the lines of its text, and what its functions return. A function is found
by its name and the type of its parameter, and the names in its body stand for what the other
declarations of the struct say: constants for the literals of the nested enumeration, tables for the
rows that are printed in them.
-/

namespace EnumHeader.Cpp

set_option autoImplicit false

namespace Reading

def readParameter (tokens : List Token) : List Token × Option String :=
  match tokens.reverse with
  | .word name :: .word typeName :: rest => ((.word typeName :: rest).reverse, some name)
  | _ => (tokens, none)

/-- A row of a table of constants names one. The name is taken as it stands, so that entries are
told apart whatever they are called. -/
def readConstantRow (row : List Char) : Option String :=
  if row.take 7 = "Value::".toList ∧ row.getLast? = some ',' then
    some (String.ofList (row.drop 7).dropLast)
  else none

/-- A row of a table of names: a string literal and a constant, in braces. -/
def readNameRow (tokens : List Token) : Option (List Char × String) := do
  let tokens ← expect (.mark "\x7b") tokens
  match tokens with
  | .quote _ body :: .mark separator :: .word qualifier :: tokens =>
      let text ← unescape .none body
      let path := (readPath tokens).1
      if separator = "," ∧ qualifier = "Value" ∧
          (readPath tokens).2 = [.mark "\x7d", .mark ","] then
        match path with
        | [name] => some (text, name)
        | _ => none
      else none
  | _ => none

def readEnumerator (line : List Char) : Option (String × String) := do
  let (before, after) ← splitLast '=' line
  if before.getLast? = some ' ' ∧ after.head? = some ' ' ∧ after.getLast? = some ',' then
    some (String.ofList before.dropLast, String.ofList after.tail.dropLast)
  else none

def readEnumerators (lines : List String) : List (String × String) :=
  (lines.filter fun line => !isCommentLine line.toList).filterMap
    fun line => readEnumerator line.toList

/-- The name of a struct and the lines between its braces. Comments may stand above it. -/
def readStruct (lines : List String) : Option (String × List String) :=
  match lines.dropWhile fun line => isCommentLine line.toList with
  | head :: block =>
      if firstWord head.toList = "struct".toList then
        (enclosed "\x7d;" block).map fun inner => (String.ofList (afterWord head.toList), inner)
      else none
  | [] => none

def readDeclarations (lines : List String) : Option (List Declaration) :=
  match outline 0 lines with
  | ([], parts) => some (parts.filterMap readPart)
  | _ => none

def readValue (storage : SizeType) (text : String) : Option Int := do
  let (value, rest) ← readExpression (tokens text)
  match rest, Scope.evaluate { storage } value with
  | [], some (.integer value) => some value
  | _, _ => none

def Statement.labels : Statement → List Expression
  | .give _ => []
  | .test _ body => body.labels
  | .each _ _ body => body.labels
  | .select _ arms => arms.map Prod.fst

namespace Declaration

def alias? (name : String) : Declaration → Option String
  | .alias other target => if other = name then some target else none
  | _ => none

def enumeration? (name : String) : Declaration → Option (List String)
  | .enumeration other lines => if other = name then some lines else none
  | _ => none

/-- The element type, the stated size and the rows of the table of that name. -/
def table? (name : String) : Declaration → Option (String × Nat × List String)
  | .table elementType other size rows =>
      if other = name then some (elementType, size, rows) else none
  | _ => none

/-- The parameters and the body of the function of that name whose parameter has that type; the
empty type is for none. -/
def function? (name parameterType : String) : Declaration → Option (String × List String)
  | .function other parameters body =>
      if other = name ∧ (readParameter (tokens parameters)).1 = tokens parameterType then
        some (parameters, body)
      else none
  | _ => none

end Declaration

structure Printed where
  /-- What its alias `underlying_type` names. -/
  storage : SizeType
  owner : String
  declarations : List Declaration
  /-- What the constants of the nested enumeration stand for. -/
  constant : String → Option Int

namespace Printed

def constantOf (storage : SizeType) (declarations : List Declaration) (name : String) :
    Option Int := do
  let lines ← declarations.findSome? (Declaration.enumeration? "Value")
  let (_, text) ← (readEnumerators lines).find? (·.1 = name)
  readValue storage text

/-- The struct that is read from lines, if its storage type is called like the given one. -/
def ofLines (storage : SizeType) (lines : List String) : Option Printed := do
  let (owner, inner) ← readStruct lines
  let declarations ← readDeclarations inner
  let stored ← declarations.findSome? (Declaration.alias? "underlying_type")
  if stored = storage.typeName then
    some ⟨storage, owner, declarations, constantOf storage declarations⟩
  else none

/-- The struct is what is read from the text of the wrapper of a model, laid out at a depth. -/
structure Shows (config : Config) (model : Model) (depth : Nat) (printed : Printed) : Prop where
  text : IsTextOf config.indent (wrapper config model).lines
    (textAt config.indent depth (wrapper config model).steps)
  read : ofLines model.sizeType (wrapper config model).lines = some printed

variable (printed : Printed)

def row (elementType line : String) : Option Datum :=
  if elementType = "Value" then do
    let name ← readConstantRow line.toList
    let value ← printed.constant name
    some (.integer value)
  else if elementType = "NameEntry" then do
    let (text, name) ← readNameRow (tokens line)
    let value ← printed.constant name
    some (.row text value)
  else none

def table (name : String) : Option (List Datum) := do
  let (elementType, _, rows) ← printed.declarations.findSome? (Declaration.table? name)
  rows.mapM (printed.row elementType)

def tableSize (name : String) : Option Nat := do
  let (_, size, _) ← printed.declarations.findSome? (Declaration.table? name)
  some size

def scope (held : Datum) : Scope where
  storage := printed.storage
  owner := printed.owner
  constant := printed.constant
  table := printed.table
  bindings := [("value_", held)]

/-- The scope of a call, in which the parameter stands for the argument if it has a name. -/
def scopeOf (parameters : String) (held argument : Datum) : Scope :=
  match (readParameter (tokens parameters)).2 with
  | some parameter => (printed.scope held).bind parameter argument
  | none => printed.scope held

def function (name parameterType : String) : Option (String × List Statement) := do
  let (parameters, lines) ←
    printed.declarations.findSome? (Declaration.function? name parameterType)
  let body ← readLines lines
  some (parameters, body)

/-- What a function returns for an argument. -/
def call (name parameterType : String) (held argument : Datum) : Option Datum := do
  let (parameters, body) ← printed.function name parameterType
  result (printed.scopeOf parameters held argument) body

def labels (name parameterType : String) : Option (List Datum) := do
  let (_, body) ← printed.function name parameterType
  (body.flatMap Statement.labels).mapM (printed.scope .nothing).evaluate

end Printed

end Reading

end EnumHeader.Cpp

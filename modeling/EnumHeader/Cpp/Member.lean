import EnumHeader.Cpp.Literal
import EnumHeader.Cpp.Layout

/-!
# Members of a generated struct

A struct is a list of members, so that the names it declares and the text it is written as come from
one description. Friends, constructors and conversions are found by their operands and declare no
name of their own in the struct.
-/

namespace EnumHeader.Cpp

set_option autoImplicit false

structure Enumerator where
  comment : List String
  name : String
  value : Literal
  deriving Repr, DecidableEq, Inhabited

def Enumerator.steps (enumerator : Enumerator) : List Step :=
  [.lines enumerator.comment,
    .line (enumerator.name ++ " = " ++ enumerator.value.text ++ ",")]

/-- A named member function: `lead` is all that stands before its name, `trail` all that follows its
parameter list. -/
structure Method where
  lead : String
  name : String
  parameters : String := ""
  trail : String
  body : List Step
  deriving Repr, DecidableEq, Inhabited

def Method.signature (method : Method) : String :=
  method.lead ++ " " ++ method.name ++ "(" ++ method.parameters ++ ") " ++ method.trail

inductive Member where
  | gap
  | alias (name target : String)
  | enumeration (name base : String) (enumerators : List Enumerator)
  /-- A short name for the enumerator of that name. -/
  | constant (name : String)
  | record (name : String) (fields : List String)
  /-- A constexpr array with one row per line. -/
  | table (elementType name : String) (rows : List String)
  | method (method : Method)
  | constructor (text : String)
  | conversion (signature : String) (body : List Step)
  | friend (signature : String) (body : List Step)
  | privateField (fieldType name : String)
  deriving Repr, DecidableEq, Inhabited

def bodied (signature : String) (body : List Step) : List Step :=
  [.opening signature] ++ body ++ [.closing "\x7d"]

namespace Member

/-- The names a member declares in the scope of its struct. -/
def names : Member → List String
  | .alias name _ => [name]
  | .enumeration name _ _ => [name]
  | .constant name => [name]
  | .record name _ => [name]
  | .table _ name _ => [name]
  | .method content => [content.name]
  | .privateField _ name => [name]
  | .gap | .constructor _ | .conversion .. | .friend .. => []

def steps : Member → List Step
  | .gap => [.blank]
  | .alias name target => [.line ("using " ++ name ++ " = " ++ target ++ ";")]
  | .enumeration name base enumerators =>
      [.opening ("enum class " ++ name ++ " : " ++ base)] ++
        enumerators.flatMap Enumerator.steps ++ [.closing "\x7d;"]
  | .constant name => [.line ("static constexpr Value " ++ name ++ " = Value::" ++ name ++ ";")]
  | .record name fields =>
      [.opening ("struct " ++ name), .lines fields, .closing "\x7d;"]
  | .table elementType name rows =>
      [.line ("static constexpr std::array<" ++ elementType ++ ", " ++ toString rows.length ++
          "> " ++ name ++ " = \x7b\x7b"),
        .indent, .lines rows, .dedent, .line "\x7d\x7d;"]
  | .method content => bodied content.signature content.body
  | .constructor text => [.line text]
  | .conversion signature body => bodied signature body
  | .friend signature body => bodied signature body
  | .privateField fieldType name =>
      [.dedent, .line "private:", .indent, .line (fieldType ++ " " ++ name ++ ";")]

end Member

structure Struct where
  comment : List String
  name : String
  members : List Member
  deriving Repr, DecidableEq, Inhabited

namespace Struct

def names (struct : Struct) : List String :=
  struct.members.flatMap Member.names

def steps (struct : Struct) : List Step :=
  [.lines struct.comment, .opening ("struct " ++ struct.name)] ++
    struct.members.flatMap Member.steps ++ [.closing "\x7d;"]

end Struct

end EnumHeader.Cpp

import EnumHeader.Cpp.Layout
import EnumHeader.Cpp.Quotation
import EnumHeader.Model

/-!
# Lookups between entries and strings

The tables behind the generated string conversions, as data. From a value to a string there is one
arm for each distinct value, and a single arm is written as a test instead of a switch, which would
be a switch over one label. From a string to a value the rows of the name table are searched in
order, and a single row is compared directly.
-/

namespace EnumHeader.Cpp

set_option autoImplicit false

/-- How a generated type holds its value, which decides what a case label has to be. -/
def caseLabel (kind : Kind) (entry : String) : String :=
  match kind with
  | .value => "Value::" ++ entry
  | .flags => "static_cast<underlying_type>(Value::" ++ entry ++ ")"

/-- The entry whose value is tested, and the text that belongs to it. -/
structure Arm where
  entry : String
  text : String
  deriving Repr, DecidableEq, Inhabited

structure Lookup where
  kind : Kind
  stringType : StringType
  arms : List Arm
  deriving Repr, DecidableEq, Inhabited

namespace Lookup

/-- One arm per distinct value, with the text that `textOf` finds for its first entry. -/
def ofModel (stringType : StringType) (model : Model) (textOf : Entry → String) : Lookup :=
  ⟨model.kind, stringType, model.canonicalEntries.map fun entry => ⟨entry.name, textOf entry⟩⟩

def result (lookup : Lookup) (arm : Arm) : Step :=
  .line ("return " ++ stringLiteral lookup.stringType arm.text ++ ";")

def caseSteps (lookup : Lookup) (arm : Arm) : List Step :=
  [.line ("case " ++ caseLabel lookup.kind arm.entry ++ ":"), .indent, lookup.result arm, .dedent]

/-- A value without an arm gives the empty view. -/
def steps (lookup : Lookup) : List Step :=
  (match lookup.arms with
    | [arm] =>
        [.opening ("if (value_ == " ++ caseLabel lookup.kind arm.entry ++ ")"),
          lookup.result arm,
          .closing "\x7d"]
    | arms =>
        [.opening "switch (value_)"] ++ arms.flatMap lookup.caseSteps ++ [.closing "\x7d"]) ++
    [.line ("return " ++ viewType lookup.stringType ++ "();")]

end Lookup

/-- The names of all entries, aliases included, in the order of declaration. -/
structure NameTable where
  owner : String
  stringType : StringType
  names : List String
  deriving Repr, DecidableEq, Inhabited

namespace NameTable

def ofModel (stringType : StringType) (model : Model) : NameTable :=
  ⟨model.name, stringType, model.definition.entryNames⟩

def row (table : NameTable) (name : String) : String :=
  "\x7b " ++ stringLiteral table.stringType name ++ ", Value::" ++ name ++ " \x7d,"

def rows (table : NameTable) : List String :=
  table.names.map table.row

def searchSteps (table : NameTable) : List Step :=
  (match table.names with
    | [name] =>
        [.opening ("if (s == " ++ stringLiteral table.stringType name ++ ")"),
          .line ("return " ++ table.owner ++ "(Value::" ++ name ++ ");"),
          .closing "\x7d"]
    | _ =>
        [.opening "for (const NameEntry& entry : names)",
          .opening "if (entry.name == s)",
          .line ("return " ++ table.owner ++ "(entry.value);"),
          .closing "\x7d",
          .closing "\x7d"]) ++
    [.line "return std::nullopt;"]

end NameTable

end EnumHeader.Cpp

import EnumHeader.Document.Schema

/-!
# Declarations

Enums as a definition file states them: storage types by name, values as numbers, as numerals in a
string, or not at all. No key but those of the schemas may occur.
-/

namespace EnumHeader

set_option autoImplicit false

open Document (Node Schema field)

inductive StatedValue where
  | integer (value : Int)
  | numeral (text : String)
  deriving Repr, DecidableEq, Inhabited

structure EntryDeclaration where
  name : String
  value : Option StatedValue := none
  description : String := ""
  deriving Repr, DecidableEq, Inhabited

structure EnumDeclaration where
  name : String
  description : String := ""
  sizeType : Option String := none
  defaultName : Option String := none
  defaultStyle : Option DefaultStyle := none
  entries : List EntryDeclaration := []
  deriving Repr, DecidableEq, Inhabited

structure DeclarationFile where
  valueEnums : List EnumDeclaration := []
  flagsEnums : List EnumDeclaration := []
  deriving Repr, DecidableEq, Inhabited

/-- The levels around a stated value: the file, its enums, one of them, its entries, and one of
them. -/
def StatedValue.around : Nat :=
  5

/-- A stated value is an integer of at most 64 bits or a string. -/
def StatedValue.decode : Document.Decoder StatedValue := fun format node => do
  Document.takeIn StatedValue.around format node
  match node with
  | .integer value => return .integer value
  | .string (some text) => return .numeral text
  | _ => Document.fail format (.noShape "RawValue")

def EntryDeclaration.schema : Schema EntryDeclaration where
  name := "RawEntry"
  closed := true
  start := { name := "" }
  fields :=
    [field "name" Document.string (fun value record => { record with name := value }) true,
      field "value" (Document.optional StatedValue.decode)
        (fun value record => { record with value := value }),
      field "description" Document.string
        (fun value record => { record with description := value })]

def EnumDeclaration.schema : Schema EnumDeclaration where
  name := "RawEnum"
  closed := true
  start := { name := "" }
  fields :=
    [field "name" Document.string (fun value record => { record with name := value }) true,
      field "description" Document.string
        (fun value record => { record with description := value }),
      field "size_type" (Document.optional Document.string)
        (fun value record => { record with sizeType := value }),
      field "default_value" (Document.optional Document.string)
        (fun value record => { record with defaultName := value }),
      field "default_style" (Document.optional (Document.keyword DefaultStyle.choices))
        (fun value record => { record with defaultStyle := value }),
      field "entries" (Document.list EntryDeclaration.schema.read)
        (fun value record => { record with entries := value })]

def DeclarationFile.schema : Schema DeclarationFile where
  name := "EnumFile"
  closed := true
  start := {}
  fields :=
    [field "value_enums" (Document.list EnumDeclaration.schema.read)
        (fun value record => { record with valueEnums := value }),
      field "flags_enums" (Document.list EnumDeclaration.schema.read)
        (fun value record => { record with flagsEnums := value })]

end EnumHeader

import EnumHeader.Config.Document
import EnumHeader.Declaration
import EnumHeader.Text.Identifier
import EnumHeader.Text.Numeral
import EnumHeader.Width

/-!
# From declarations to definitions

Names are checked, storage types are looked up and every entry gets its value. An entry of a value
enum that states none continues from the entry before it; one of a flags enum takes the bit above
all bits that earlier positive values use.
-/

namespace EnumHeader

set_option autoImplicit false

/-- What the values before an entry leave for one that states none. -/
structure Assigned where
  previous : Option Int := none
  /-- The bits of all positive values so far. -/
  usedBits : Nat := 0
  deriving Repr, DecidableEq, Inhabited

namespace Assigned

def push (assigned : Assigned) (value : Int) : Assigned :=
  ⟨some value, if 0 < value then assigned.usedBits ||| value.toNat else assigned.usedBits⟩

def nextValue (enum : String) (assigned : Assigned) : Except Failure Int :=
  match assigned.previous with
  | none => .ok 0
  | some previous =>
      if previous < Integer.greatest then .ok (previous + 1)
      else .error (.misuse (.valuesExhausted enum previous))

/-- The next flag of a flags enum. The top bit of a value is its sign and cannot be taken. -/
def nextFlag (enum : String) (assigned : Assigned) : Except Failure Int :=
  let bit := Width.ofNat assigned.usedBits
  if bit < 127 then .ok (Int.pow 2 bit) else .error (.misuse (.bitsExhausted enum))

def next (kind : Kind) (enum : String) (assigned : Assigned) : Except Failure Int :=
  match kind with
  | .value => assigned.nextValue enum
  | .flags => assigned.nextFlag enum

end Assigned

def StatedValue.resolve (enum entry : String) : StatedValue → Except Failure Int
  | .integer value => .ok value
  | .numeral text =>
      match Text.readValue text with
      | some value => .ok value
      | none => .error (.invalidValue (enum ++ "." ++ entry ++ ".value") text)

namespace EntryDeclaration

def resolve (kind : Kind) (enum : String) (assigned : Assigned) (declaration : EntryDeclaration) :
    Except Failure Entry :=
  if Text.isIdentifier declaration.name then do
    let value ←
      match declaration.value with
      | some stated => stated.resolve enum declaration.name
      | none => assigned.next kind enum
    return ⟨declaration.name, value, declaration.description⟩
  else .error (.invalidValue (enum ++ ".entries.name") declaration.name)

/-- The entries in order, each after the values of those before it. -/
def resolveAll (kind : Kind) (enum : String) (assigned : Assigned) :
    List EntryDeclaration → Except Failure (List Entry)
  | [] => .ok []
  | declaration :: rest => do
      let entry ← declaration.resolve kind enum assigned
      let later ← resolveAll kind enum (assigned.push entry.value) rest
      return entry :: later

end EntryDeclaration

namespace EnumDeclaration

def sizeIndex (config : Config) (kind : Kind) (declaration : EnumDeclaration) :
    Except Failure Nat :=
  match declaration.sizeType with
  | some name => config.sizeIndexOf name
  | none => config.defaultSizeIndex kind

def resolve (config : Config) (kind : Kind) (declaration : EnumDeclaration) :
    Except Failure Definition :=
  if Text.isIdentifier declaration.name then do
    let sizeIndex ← declaration.sizeIndex config kind
    let entries ← EntryDeclaration.resolveAll kind declaration.name {} declaration.entries
    return {
      name := declaration.name
      kind
      entries
      description := declaration.description
      defaultName := declaration.defaultName
      defaultStyle := declaration.defaultStyle
      sizeIndex }
  else .error (.invalidValue "enum name" declaration.name)

end EnumDeclaration

namespace DeclarationFile

/-- The definitions of a file: value enums first, then flags enums, each in the order of the
file. -/
def resolve (config : Config) (file : DeclarationFile) : Except Failure (List Definition) := do
  let valueEnums ← file.valueEnums.mapM (EnumDeclaration.resolve config .value)
  let flagsEnums ← file.flagsEnums.mapM (EnumDeclaration.resolve config .flags)
  return valueEnums ++ flagsEnums

end DeclarationFile

namespace Definition

def parseAll (config : Config) (format : Document.Format) (text : String) :
    Except Failure (List Definition) := do
  let node ← Document.parse format text
  let file ← DeclarationFile.schema.read format node
  file.resolve config

end Definition

end EnumHeader

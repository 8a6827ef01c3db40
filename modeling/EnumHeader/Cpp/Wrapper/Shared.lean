import EnumHeader.Cpp.Comment
import EnumHeader.Cpp.Guard
import EnumHeader.Cpp.Lookup
import EnumHeader.Cpp.Member
import EnumHeader.Cpp.Naming

/-!
# Members that both kinds of wrapper have

The declarations of a wrapper struct that do not depend on how it holds its value: the enumeration
with its constants, what the type says about itself, the validity check, the string conversions and
equality.
-/

namespace EnumHeader.Cpp.Wrapper

set_option autoImplicit false

variable (config : Config) (model : Model)

def query (resultType name result : String) : Member :=
  .method
    { lead := config.nodiscard ++ " static constexpr " ++ resultType
      name
      trail := "noexcept"
      body := [.line ("return " ++ result ++ ";")] }

def staticMethod (resultType name parameters : String) (body : List Step) : Member :=
  .method
    { lead := config.nodiscard ++ " static constexpr " ++ resultType
      name
      parameters
      trail := "noexcept"
      body }

def reader (resultType name parameters : String) (body : List Step) : Member :=
  .method
    { lead := config.nodiscard ++ " constexpr " ++ resultType
      name
      parameters
      trail := "const noexcept"
      body }

def modifier (name parameters statement : String) : Member :=
  .method
    { lead := "constexpr void"
      name
      parameters
      trail := "noexcept"
      body := [.line statement] }

def enumerator (entry : Entry) : Enumerator :=
  ⟨commentLines entry.description, entry.name, Literal.ofValue model.kind entry.value⟩

/-- The storage type, the nested enumeration and a short name for each of its constants. -/
def declarations : List Member :=
  [.alias "underlying_type" model.sizeType.typeName,
    .gap,
    .enumeration "Value" "underlying_type" (model.definition.entries.map (enumerator model)),
    .gap] ++
    model.definition.entryNames.map Member.constant

def boolText (value : Bool) : String :=
  if value then "true" else "false"

def tableRow (entry : Entry) : String :=
  "Value::" ++ entry.name ++ ","

def introspection : List Member :=
  let metadata := model.metadata
  [query config "Value" "min" ("Value::" ++ model.least.name),
    query config "Value" "max" ("Value::" ++ model.greatest.name),
    query config "std::size_t" "count" (toString metadata.uniqueCount),
    query config "bool" "is_contiguous" (boolText metadata.isContiguous),
    query config "int" "bits_required_storage" (toString metadata.storageBits),
    query config "int" "bits_required_transmission" (toString metadata.transmissionBits),
    .gap,
    .table "Value" "values" (model.canonicalEntries.map tableRow)]

def guard : Guard :=
  Guard.ofValidity model.kind model.metadata.validity

/-- The validity check on the storage type, and on the enumeration by way of it. -/
def validityMembers : List Member :=
  [staticMethod config "bool" "is_valid" (guard model).parameter (guard model).steps,
    staticMethod config "bool" "is_valid" "Value v"
      [.line "return is_valid(static_cast<underlying_type>(v));"]]

def nameTable : NameTable :=
  NameTable.ofModel config.stringType model

def nameLookup : Lookup :=
  Lookup.ofModel config.stringType model Entry.name

def descriptionLookup : Lookup :=
  Lookup.ofModel config.stringType model Entry.description

def nameMembers : List Member :=
  let view := viewType config.stringType
  [.gap,
    .record "NameEntry" [view ++ " name;", "Value value;"],
    .gap,
    .table "NameEntry" "names" (nameTable config model).rows,
    .gap,
    reader config view "to_string" "" (nameLookup config model).steps,
    staticMethod config ("std::optional<" ++ model.name ++ ">") "from_string" (view ++ " s")
      (nameTable config model).searchSteps]

def descriptionMembers : List Member :=
  [reader config (viewType config.stringType) "description" ""
    (descriptionLookup config model).steps]

def stringMembers : List Member :=
  match config.stringTable with
  | .none => []
  | .names => nameMembers config model
  | .namesAndDescriptions => nameMembers config model ++ descriptionMembers config model

def friendFunction (signature statement : String) : Member :=
  .friend ("friend constexpr " ++ signature ++ " noexcept") [.line statement]

/-- Comparison of every pairing of wrapper and enumeration, so that no conversion has to be
chosen. -/
def comparison (owner op : String) : List Member :=
  [friendFunction ("bool operator" ++ op ++ "(" ++ owner ++ " a, " ++ owner ++ " b)")
      ("return a.value_ " ++ op ++ " b.value_;"),
    friendFunction ("bool operator" ++ op ++ "(" ++ owner ++ " a, Value b)")
      ("return a " ++ op ++ " " ++ owner ++ "(b);"),
    friendFunction ("bool operator" ++ op ++ "(Value a, " ++ owner ++ " b)")
      ("return " ++ owner ++ "(a) " ++ op ++ " b;")]

def equality (owner : String) : List Member :=
  comparison owner "==" ++ comparison owner "!="

/-- The checked conversion from an integer; `construct` is what is returned for a valid one. -/
def fromInteger (construct : String) : Member :=
  staticMethod config ("std::optional<" ++ model.name ++ ">") "from_integer" "underlying_type v"
    [.opening "if (!is_valid(v))",
      .line "return std::nullopt;",
      .closing "\x7d",
      .line ("return " ++ construct ++ ";")]

def constructorOf (parameters initial : String) : Member :=
  .constructor
    ("constexpr " ++ model.name ++ "(" ++ parameters ++ ") noexcept : value_(" ++ initial ++
      ") \x7b\x7d")

end EnumHeader.Cpp.Wrapper

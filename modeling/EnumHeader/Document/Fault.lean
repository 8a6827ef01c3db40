import EnumHeader.Text.Numeral
import EnumHeader.Text.Quoted

/-!
# What can be wrong with a well-formed document

A document that follows the grammar of its format may still hold the wrong data: a value of another
type, a field too many or too few. Each such fault is one constructor; the wording is in one place.
-/

namespace EnumHeader.Document

set_option autoImplicit false

inductive Format where
  | toml
  | json
  deriving Repr, DecidableEq, Inhabited

def Format.text : Format → String
  | .toml => "TOML"
  | .json => "JSON"

def Format.extension : Format → String
  | .toml => "toml"
  | .json => "json"

inductive Found where
  | integer (value : Int)
  /-- A number with a fraction or an exponent, given by its shortest text. -/
  | float (text : String)
  | boolean (value : Bool)
  | string (text : String)
  | null
  | sequence
  | map
  deriving Repr, DecidableEq, Inhabited

def Found.text : Found → String
  | .integer value => "integer `" ++ Text.decimal value ++ "`"
  | .float text => "floating point `" ++ text ++ "`"
  | .boolean value => "boolean `" ++ (if value then "true" else "false") ++ "`"
  | .string text => "string " ++ Text.quoted text
  | .null => "null"
  | .sequence => "sequence"
  | .map => "map"

inductive Fault where
  | invalidType (found : Found) (expected : String)
  /-- The right type, but out of range. -/
  | invalidValue (found : Found) (expected : String)
  | missingField (name : String)
  | duplicateField (name : String)
  | unknownField (name : String) (known : List String)
  | unknownVariant (name : String) (known : List String)
  /-- A record written as an array that ends before a required field. -/
  | invalidLength (length : Nat) (expected : String)
  /-- A record written as an array with elements left over. -/
  | trailingElements
  /-- None of the shapes that a value of the named type may have. -/
  | noShape (typeName : String)
  /-- A keyword that is neither a string nor a table of one key, as each format puts it. -/
  | notKeyword (format : Format)
  | keywordCount (several : Bool)
  | keywordPayload (found : String)
  | keywordPayloadTable
  | keywordPayloadArray
  deriving Repr, DecidableEq, Inhabited

def backquoted (name : String) : String :=
  "`" ++ name ++ "`"

def choice : List String → String
  | [] => "there are no fields"
  | [only] => "expected " ++ backquoted only
  | [first, second] => "expected " ++ backquoted first ++ " or " ++ backquoted second
  | names => "expected one of " ++ ", ".intercalate (names.map backquoted)

def Fault.message : Fault → String
  | .invalidType found expected => "invalid type: " ++ found.text ++ ", expected " ++ expected
  | .invalidValue found expected => "invalid value: " ++ found.text ++ ", expected " ++ expected
  | .missingField name => "missing field " ++ backquoted name
  | .duplicateField name => "duplicate field " ++ backquoted name
  | .unknownField name known => "unknown field " ++ backquoted name ++ ", " ++ choice known
  | .unknownVariant name known => "unknown variant " ++ backquoted name ++ ", " ++ choice known
  | .invalidLength length expected =>
      "invalid length " ++ toString length ++ ", expected " ++ expected
  | .trailingElements => "trailing characters"
  | .noShape typeName => "data did not match any variant of untagged enum " ++ typeName
  | .notKeyword .json => "expected value"
  | .notKeyword .toml => "wanted string or table"
  | .keywordCount false => "wanted exactly 1 element, found 0 elements"
  | .keywordCount true => "wanted exactly 1 element, more than 1 element"
  | .keywordPayload found => "expected table, found " ++ found
  | .keywordPayloadTable => "expected empty table"
  | .keywordPayloadArray => "expected empty array"

end EnumHeader.Document

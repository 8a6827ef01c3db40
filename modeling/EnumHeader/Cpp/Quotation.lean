import EnumHeader.Config
import EnumHeader.Text.Numeral

/-!
# String literals

A text between quotes, with an escape for every character that would end the literal, start another
escape or not survive in source. A question mark is escaped because two of them could start a
trigraph; other controls are three octal digits, so that a digit after them stays apart.
-/

namespace EnumHeader.Cpp

set_option autoImplicit false

def escapedChar (c : Char) : List Char :=
  match c with
  | '\\' => ['\\', '\\']
  | '"' => ['\\', '"']
  | '\n' => ['\\', 'n']
  | '\r' => ['\\', 'r']
  | '\t' => ['\\', 't']
  | '?' => ['\\', '?']
  | _ => if c.toNat < 0x20 ∨ c.toNat = 0x7F then '\\' :: Text.threeOctalDigits c.toNat else [c]

/-- The part of a literal between its quotes. -/
def escaped (text : List Char) : List Char :=
  text.flatMap escapedChar

def literalMark : StringType → List Char
  | .narrow => []
  | .wide => ['L']

def stringLiteral (stringType : StringType) (text : String) : String :=
  String.ofList (literalMark stringType ++ ['"'] ++ escaped text.toList ++ ['"'])

def viewType : StringType → String
  | .narrow => "std::string_view"
  | .wide => "std::wstring_view"

end EnumHeader.Cpp

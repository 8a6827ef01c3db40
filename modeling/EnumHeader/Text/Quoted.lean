import EnumHeader.Text.Numeral
import EnumHeader.Text.Showable

/-!
# Quotations in messages

A message quotes a text between double quotes so that every character can be told: the quote, the
backslash and the usual controls get their two-character escapes, and any other character that a
reader could not see is written by its code point. An apostrophe stands for itself.
-/

namespace EnumHeader.Text

set_option autoImplicit false

def quotedChar (c : Char) : List Char :=
  match c with
  | '"' => ['\\', '"']
  | '\\' => ['\\', '\\']
  | '\n' => ['\\', 'n']
  | '\r' => ['\\', 'r']
  | '\t' => ['\\', 't']
  | '\x00' => ['\\', '0']
  | _ =>
      if isShowable c then [c]
      else ['\\', 'u', '\x7b'] ++ Nat.toDigits 16 c.toNat ++ ['\x7d']

def quoted (text : String) : String :=
  String.ofList (['"'] ++ text.toList.flatMap quotedChar ++ ['"'])

end EnumHeader.Text

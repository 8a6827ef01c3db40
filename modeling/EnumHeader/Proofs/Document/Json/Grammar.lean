import EnumHeader.Document.Json

/-!
# The texts of JSON values

All texts that write a value, not the one that some writer chooses: space may stand around every
value and sign, and a character may be written directly or by any of its escapes. Of the numbers only
integers are treated.
-/

namespace EnumHeader.Document.Json

set_option autoImplicit false

def IsSpaces (text : List Char) : Prop :=
  ∀ c ∈ text, isSpace c = true

theorem no_spaces : IsSpaces [] :=
  nofun

inductive WritesChar : Char → List Char → Prop where
  | plain {char : Char} (visible : 0x20 ≤ char.toNat) (notQuote : char ≠ '"')
      (notBackslash : char ≠ '\\') : WritesChar char [char]
  | short {letter char : Char} (stands : shortEscape? letter = some char) :
      WritesChar char ['\\', letter]
  | unit {a b c d char : Char} (stands : hexNumber? [a, b, c, d] = some char.toNat) :
      WritesChar char ['\\', 'u', a, b, c, d]
  /-- A character beyond four digits is written as two halves. -/
  | pair {a b c d e f g h char : Char} {high low : Nat}
      (first : hexNumber? [a, b, c, d] = some high) (second : hexNumber? [e, f, g, h] = some low)
      (isHigh : isHighHalf high = true) (isLow : isLowHalf low = true)
      (stands : char.toNat = 0x10000 + (high - 0xD800) * 0x400 + (low - 0xDC00)) :
      WritesChar char ['\\', 'u', a, b, c, d, '\\', 'u', e, f, g, h]

inductive WritesChars : List Char → List Char → Prop where
  | nil : WritesChars [] []
  | cons {char : Char} {chars written later : List Char} (first : WritesChar char written)
      (rest : WritesChars chars later) : WritesChars (char :: chars) (written ++ later)

inductive Separated {Item : Type} (writes : Item → List Char → Prop) :
    List Item → List Char → Prop where
  | last {item : Item} {text : List Char} (only : writes item text) : Separated writes [item] text
  | more {item : Item} {items : List Item} {text others : List Char} (first : writes item text)
      (rest : Separated writes items others) :
      Separated writes (item :: items) (text ++ ',' :: others)

mutual

inductive Writes : Node → List Char → Prop where
  | null : Writes .null ['n', 'u', 'l', 'l']
  | yes : Writes (.boolean true) ['t', 'r', 'u', 'e']
  | no : Writes (.boolean false) ['f', 'a', 'l', 's', 'e']
  | integer {value : Int} (fits : IntegerFits value) :
      Writes (.integer value) (Text.decimal value).toList
  | string {text : String} {written : List Char} (chars : WritesChars text.toList written) :
      Writes (.string (some text)) ('"' :: (written ++ ['"']))
  | emptyArray {space : List Char} (spaces : IsSpaces space) :
      Writes (.array []) ('[' :: (space ++ [']']))
  | array {elements : List Node} {written : List Char}
      (inside : Separated WritesElement elements written) :
      Writes (.array elements) ('[' :: (written ++ [']']))
  | emptyTable {space : List Char} (spaces : IsSpaces space) :
      Writes (.table []) ('\x7b' :: (space ++ ['\x7d']))
  | table {fields : List (Wording × Node)} {written : List Char}
      (inside : Separated WritesField fields written) :
      Writes (.table fields) ('\x7b' :: (written ++ ['\x7d']))

/-- A way to write a value with space around it. -/
inductive WritesElement : Node → List Char → Prop where
  | padded {node : Node} {before written after : List Char} (spaceBefore : IsSpaces before)
      (content : Writes node written) (spaceAfter : IsSpaces after) :
      WritesElement node (before ++ (written ++ after))

inductive WritesField : Wording × Node → List Char → Prop where
  | keyed {name : String} {node : Node} {before key after content : List Char}
      (spaceBefore : IsSpaces before) (named : WritesChars name.toList key)
      (spaceAfter : IsSpaces after) (value : WritesElement node content) :
      WritesField (some name, node) (before ++ '"' :: (key ++ '"' :: (after ++ ':' :: content)))

end

end EnumHeader.Document.Json

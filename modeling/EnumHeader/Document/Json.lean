import EnumHeader.Document.Shortest

/-!
# JSON

Reading and writing JSON texts. The reader follows the grammar of the format strictly: no comments,
no trailing commas, no raw control characters in strings. Every reader takes the front of a text and
leaves the rest; the readers of values are bounded by a count that the length of the text exceeds.
-/

namespace EnumHeader.Document.Json

set_option autoImplicit false

def isSpace (c : Char) : Bool :=
  c == ' ' || c == '\t' || c == '\n' || c == '\r'

def skipSpace (text : List Char) : List Char :=
  text.dropWhile isSpace

/-! ## Strings -/

def shortEscape? : Char → Option Char
  | '"' => some '"'
  | '\\' => some '\\'
  | '/' => some '/'
  | 'b' => some '\x08'
  | 'f' => some '\x0c'
  | 'n' => some '\n'
  | 'r' => some '\r'
  | 't' => some '\t'
  | _ => none

/-- The code units up to the closing quote. A character that is written directly is one unit; an
escape of four digits can be half of a surrogate pair. -/
def units : Reader (List Nat)
  | [] => none
  | '"' :: rest => some ([], rest)
  | '\\' :: 'u' :: a :: b :: c :: d :: rest => do
      let unit ← hexNumber? [a, b, c, d]
      let (later, left) ← units rest
      some (unit :: later, left)
  | '\\' :: c :: rest => do
      let escaped ← shortEscape? c
      let (later, left) ← units rest
      some (escaped.toNat :: later, left)
  | c :: rest =>
      if c.toNat < 0x20 then none
      else do
        let (later, left) ← units rest
        some (c.toNat :: later, left)

def isHighHalf (unit : Nat) : Bool :=
  0xD800 ≤ unit && unit < 0xDC00

def isLowHalf (unit : Nat) : Bool :=
  0xDC00 ≤ unit && unit < 0xE000

/-- The characters of code units; half of a pair is no character. -/
def joinUnits : List Nat → Option (List Char)
  | [] => some []
  | high :: low :: rest =>
      if isHighHalf high && isLowHalf low then do
        let later ← joinUnits rest
        some (Char.ofNat (0x10000 + (high - 0xD800) * 0x400 + (low - 0xDC00)) :: later)
      else if isHighHalf high || isLowHalf high then none
      else do
        let later ← joinUnits (low :: rest)
        some (Char.ofNat high :: later)
  | [unit] => if isHighHalf unit || isLowHalf unit then none else some [Char.ofNat unit]

def wording : Reader Wording := fun text => do
  let (found, rest) ← units text
  some ((joinUnits found).map String.ofList, rest)

/-! ## Numbers -/

def digits (text : List Char) : List Char × List Char :=
  (text.takeWhile Char.isDigit, text.dropWhile Char.isDigit)

def someDigits : Reader (List Char) := fun text =>
  let (found, rest) := digits text
  if found.isEmpty then none else some (found, rest)

/-- The digits before the point: no zero in front of another digit. -/
def wholePart : Reader (List Char)
  | '0' :: rest => some (['0'], rest)
  | text => someDigits text

def fraction : Reader (Option (List Char))
  | '.' :: rest => do
      let (found, left) ← someDigits rest
      some (some found, left)
  | text => some (none, text)

def number (digits : List Char) : Nat :=
  (Text.readDigits 10 digits).getD 0

def digitOf (c : Char) : Nat :=
  c.toNat - '0'.toNat

/-- The digits of a number as far as they fit a word of 64 bits, behind those that are in it
already, and the count of the digits that are left over. -/
def takeWord (word : Nat) : List Char → Nat × Nat
  | [] => (word, 0)
  | c :: rest =>
      if word * 10 + digitOf c < Nat.pow 2 64 then takeWord (word * 10 + digitOf c) rest
      else (word, rest.length + 1)

/-- The double for a number, which is not always the nearest one: digits beyond a word of 64 bits
only count for their place, the word is rounded, and then so is every step of its shift. -/
def double? (whole decimals : List Char) (exponent : Int) : Option Double := do
  let (word, wholeLeft) := takeWord 0 whole
  let (word, decimalsLeft) := takeWord word decimals
  let start ← Double.ofDecimal? word 0
  start.shifted? (exponent + wholeLeft - (decimals.length - decimalsLeft))

def exponentPart : Reader (Option Int)
  | 'e' :: rest | 'E' :: rest =>
      let (negative, unsigned) :=
        match rest with
        | '-' :: later => (true, later)
        | '+' :: later => (false, later)
        | later => (false, later)
      do
        let (found, left) ← someDigits unsigned
        let size : Int := number found
        some (some (if negative then -size else size), left)
  | text => some (none, text)

/-- An integer where the text is one and has 64 bits; a double otherwise. A negative zero is not an
integer. -/
def numberNode (negative : Bool) (whole : List Char) (part : Option (List Char))
    (exponent : Option Int) : Node :=
  let size : Int := number whole
  let value := if negative then -size else size
  if part.isNone && exponent.isNone && decide (IntegerFits value) && !(negative && value == 0) then
    .integer value
  else
    .real (Real.ofSize negative (double? whole (part.getD []) (exponent.getD 0)))

def unsignedNumber (negative : Bool) : Reader Node := fun text => do
  let (whole, afterWhole) ← wholePart text
  let (part, afterPart) ← fraction afterWhole
  let (exponent, rest) ← exponentPart afterPart
  some (numberNode negative whole part exponent, rest)

/-! ## Values -/

mutual

def value : Nat → Reader Node
  | 0, _ => none
  | bound + 1, text =>
      match skipSpace text with
      | 'n' :: 'u' :: 'l' :: 'l' :: rest => some (.null, rest)
      | 't' :: 'r' :: 'u' :: 'e' :: rest => some (.boolean true, rest)
      | 'f' :: 'a' :: 'l' :: 's' :: 'e' :: rest => some (.boolean false, rest)
      | '"' :: rest => do
          let (text, left) ← wording rest
          some (.string text, left)
      | '-' :: rest => unsignedNumber true rest
      | '[' :: rest =>
          match skipSpace rest with
          | ']' :: left => some (.array [], left)
          | _ => do
              let (elements, left) ← elementsOf bound rest
              some (.array elements, left)
      | '\x7b' :: rest =>
          match skipSpace rest with
          | '\x7d' :: left => some (.table [], left)
          | _ => do
              let (fields, left) ← fieldsOf bound rest
              some (.table fields, left)
      | other => unsignedNumber false other

/-- The elements of an array up to its end; there is at least one. -/
def elementsOf : Nat → Reader (List Node)
  | 0, _ => none
  | bound + 1, text => do
      let (first, rest) ← value bound text
      match skipSpace rest with
      | ']' :: left => some ([first], left)
      | ',' :: more => do
          let (later, left) ← elementsOf bound more
          some (first :: later, left)
      | _ => none

def fieldsOf : Nat → Reader (List (Wording × Node))
  | 0, _ => none
  | bound + 1, text =>
      match skipSpace text with
      | '"' :: afterQuote => do
          let (name, afterKey) ← wording afterQuote
          match skipSpace afterKey with
          | ':' :: afterColon => do
              let (content, rest) ← value bound afterColon
              match skipSpace rest with
              | '\x7d' :: left => some ([(name, content)], left)
              | ',' :: more => do
                  let (later, left) ← fieldsOf bound more
                  some ((name, content) :: later, left)
              | _ => none
          | _ => none
      | _ => none

end

def read (text : List Char) : Option Node := do
  let (node, rest) ← value (2 * text.length + 2) text
  if (skipSpace rest).isEmpty then some node else none

/-! ## Writing -/

def escapedChar (c : Char) : List Char :=
  match c with
  | '"' => ['\\', '"']
  | '\\' => ['\\', '\\']
  | '\x08' => ['\\', 'b']
  | '\x0c' => ['\\', 'f']
  | '\n' => ['\\', 'n']
  | '\r' => ['\\', 'r']
  | '\t' => ['\\', 't']
  | _ =>
      if c.toNat < 0x20 then
        ['\\', 'u', '0', '0', Nat.digitChar (c.toNat / 16), Nat.digitChar (c.toNat % 16)]
      else [c]

/-- A text between quotes. One that says nothing is written as empty. -/
def quoted (text : Wording) : String :=
  String.ofList (['"'] ++ (text.getD "").toList.flatMap escapedChar ++ ['"'])

def margin (depth : Nat) : String :=
  String.ofList (List.replicate (2 * depth) ' ')

def bracketed (opening closing : String) (depth : Nat) (items : List String) : String :=
  if items.isEmpty then opening ++ closing
  else
    opening ++ "\n" ++
      ",\n".intercalate (items.map (margin (depth + 1) ++ ·)) ++
      "\n" ++ margin depth ++ closing

mutual

/-- A value over several lines, two spaces deeper at each level. -/
def pretty (depth : Nat) : Node → String
  | .null | .datetime => "null"
  | .boolean value => if value then "true" else "false"
  | .integer value => Text.decimal value
  | .real value => value.text .json
  | .string text => quoted text
  | .array elements => bracketed "[" "]" depth (prettyElements (depth + 1) elements)
  | .table fields => bracketed "\x7b" "\x7d" depth (prettyFields (depth + 1) fields)

def prettyElements (depth : Nat) : List Node → List String
  | [] => []
  | first :: rest => pretty depth first :: prettyElements depth rest

def prettyFields (depth : Nat) : List (Wording × Node) → List String
  | [] => []
  | (name, content) :: rest =>
      (quoted name ++ ": " ++ pretty depth content) :: prettyFields depth rest

end

/-- The text of a document, without an end of line after it. -/
def write (node : Node) : String :=
  pretty 0 node

end EnumHeader.Document.Json

import EnumHeader.Document.Basic

/-!
# TOML lexemes

Blanks, comments, line ends and strings of TOML 1.1. A carriage return counts only together with a
line feed, and control characters other than tab stand nowhere in a document.
-/

namespace EnumHeader.Document.Toml

set_option autoImplicit false

def isBlank (c : Char) : Bool :=
  c == ' ' || c == '\t'

def skipBlank (text : List Char) : List Char :=
  text.dropWhile isBlank

def isPlain (c : Char) : Bool :=
  c == '\t' || (0x20 ≤ c.toNat && c.toNat != 0x7F)

/-- The rest of a comment up to the end of its line, which stays. -/
def skipComment : List Char → Option (List Char)
  | [] => some []
  | '\n' :: rest => some ('\n' :: rest)
  | '\r' :: '\n' :: rest => some ('\n' :: rest)
  | c :: rest => if isPlain c then skipComment rest else none

/-- What may follow an expression: blanks, a comment, and the end of the line or of the text. -/
def endOfLine (text : List Char) : Option (List Char) := do
  let rest ←
    match skipBlank text with
    | '#' :: comment => skipComment comment
    | other => some other
  match rest with
  | [] => some []
  | '\n' :: left => some left
  | '\r' :: '\n' :: left => some left
  | _ => none

/-- Blanks, line ends and comments between the parts of an array or an inline table; the mark tells
whether the text begins inside a comment. -/
def skipFiller : Bool → List Char → Option (List Char)
  | _, [] => some []
  | _, '\n' :: rest => skipFiller false rest
  | _, '\r' :: '\n' :: rest => skipFiller false rest
  | true, c :: rest => if isPlain c then skipFiller true rest else none
  | false, '#' :: rest => skipFiller true rest
  | false, c :: rest => if isBlank c then skipFiller false rest else some (c :: rest)

def filler (text : List Char) : Option (List Char) :=
  skipFiller false text

/-! ## Strings -/

def shortEscape? : Char → Option Char
  | 'b' => some '\x08'
  | 't' => some '\t'
  | 'n' => some '\n'
  | 'f' => some '\x0c'
  | 'r' => some '\r'
  | 'e' => some '\x1b'
  | '"' => some '"'
  | '\\' => some '\\'
  | _ => none

def character? (digits : List Char) : Option Char := do
  let code ← hexNumber? digits
  if h : code.isValidChar then some (Char.ofNatAux code h) else none

def before (c : Char) : Option (List Char × List Char) → Option (List Char × List Char)
  | some (later, rest) => some (c :: later, rest)
  | none => none

def basicString : Reader (List Char)
  | [] => none
  | '"' :: rest => some ([], rest)
  | '\\' :: 'x' :: a :: b :: rest => do
      let c ← character? [a, b]
      before c (basicString rest)
  | '\\' :: 'u' :: a :: b :: c :: d :: rest => do
      let found ← character? [a, b, c, d]
      before found (basicString rest)
  | '\\' :: 'U' :: a :: b :: c :: d :: e :: f :: g :: h :: rest => do
      let found ← character? [a, b, c, d, e, f, g, h]
      before found (basicString rest)
  | '\\' :: c :: rest => do
      let found ← shortEscape? c
      before found (basicString rest)
  | c :: rest => if isPlain c then before c (basicString rest) else none

def literalString : Reader (List Char)
  | [] => none
  | '\x27' :: rest => some ([], rest)
  | c :: rest => if isPlain c then before c (literalString rest) else none

/-- Where a string over several lines is being read: in its text, behind a backslash that has to be
the last of its line, or in the blanks that such a backslash takes away. -/
inductive Spot where
  | text
  | lineEnd
  | gap
  deriving Repr, DecidableEq

/-- A string in three double quotes, after them. One or two further quotes before the closing ones
belong to the string. -/
def longBasicString : Spot → Reader (List Char)
  | _, [] => none
  | .lineEnd, '\n' :: rest => longBasicString .gap rest
  | .lineEnd, '\r' :: '\n' :: rest => longBasicString .gap rest
  | .lineEnd, c :: rest => if isBlank c then longBasicString .lineEnd rest else none
  | .gap, '\n' :: rest => longBasicString .gap rest
  | .gap, '\r' :: '\n' :: rest => longBasicString .gap rest
  | .gap, ' ' :: rest => longBasicString .gap rest
  | .gap, '\t' :: rest => longBasicString .gap rest
  | _, '"' :: '"' :: '"' :: '"' :: '"' :: rest => some (['"', '"'], rest)
  | _, '"' :: '"' :: '"' :: '"' :: rest => some (['"'], rest)
  | _, '"' :: '"' :: '"' :: rest => some ([], rest)
  | _, '\\' :: 'x' :: a :: b :: rest => do
      let c ← character? [a, b]
      before c (longBasicString .text rest)
  | _, '\\' :: 'u' :: a :: b :: c :: d :: rest => do
      let found ← character? [a, b, c, d]
      before found (longBasicString .text rest)
  | _, '\\' :: 'U' :: a :: b :: c :: d :: e :: f :: g :: h :: rest => do
      let found ← character? [a, b, c, d, e, f, g, h]
      before found (longBasicString .text rest)
  | _, '\\' :: c :: rest =>
      match shortEscape? c with
      | some found => before found (longBasicString .text rest)
      | none => longBasicString .lineEnd (c :: rest)
  | _, '\n' :: rest => before '\n' (longBasicString .text rest)
  | _, '\r' :: '\n' :: rest => before '\r' (before '\n' (longBasicString .text rest))
  | _, c :: rest => if isPlain c then before c (longBasicString .text rest) else none

def longLiteralString : Reader (List Char)
  | [] => none
  | '\x27' :: '\x27' :: '\x27' :: '\x27' :: '\x27' :: rest => some (['\x27', '\x27'], rest)
  | '\x27' :: '\x27' :: '\x27' :: '\x27' :: rest => some (['\x27'], rest)
  | '\x27' :: '\x27' :: '\x27' :: rest => some ([], rest)
  | '\n' :: rest => before '\n' (longLiteralString rest)
  | '\r' :: '\n' :: rest => before '\r' (before '\n' (longLiteralString rest))
  | c :: rest => if isPlain c then before c (longLiteralString rest) else none

/-- A line end directly behind the opening quotes does not belong to the string. -/
def afterOpening : List Char → List Char
  | '\n' :: rest => rest
  | '\r' :: '\n' :: rest => rest
  | text => text

/-- A string of any of the four forms; no reading at all if the text starts with no quote. -/
def stringValue? : List Char → Option (Option (String × List Char))
  | '"' :: '"' :: '"' :: rest =>
      some ((longBasicString .text (afterOpening rest)).map fun (found, left) =>
        (String.ofList found, left))
  | '"' :: rest =>
      some ((basicString rest).map fun (found, left) => (String.ofList found, left))
  | '\x27' :: '\x27' :: '\x27' :: rest =>
      some ((longLiteralString (afterOpening rest)).map fun (found, left) =>
        (String.ofList found, left))
  | '\x27' :: rest =>
      some ((literalString rest).map fun (found, left) => (String.ofList found, left))
  | _ => none

/-! ## Keys -/

def isBare (c : Char) : Bool :=
  c.isAlphanum || c == '_' || c == '-'

def simpleKey : Reader String
  | '"' :: rest => (basicString rest).map fun (found, left) => (String.ofList found, left)
  | '\x27' :: rest => (literalString rest).map fun (found, left) => (String.ofList found, left)
  | text =>
      let bare := text.takeWhile isBare
      if bare.isEmpty then none else some (String.ofList bare, text.dropWhile isBare)

/-- A key with its dots, read with a bound on the number of its parts. Blanks after it are skipped.
-/
def dottedKey : Nat → Reader (List String)
  | 0, _ => none
  | bound + 1, text => do
      let (first, rest) ← simpleKey (skipBlank text)
      match skipBlank rest with
      | '.' :: more => do
          let (later, left) ← dottedKey bound more
          some (first :: later, left)
      | left => some ([first], left)

end EnumHeader.Document.Toml

import EnumHeader.Integer
import EnumHeader.Text.Blank

/-!
# Numerals

How integers are written and read. Writing is plain decimal or hexadecimal; reading is the notation
of entry values: an optional sign, an optional radix mark and digits, with `_` allowed anywhere as a
separator and blanks allowed around the whole.
-/

namespace EnumHeader.Text

set_option autoImplicit false

def decimal (value : Int) : String :=
  match value with
  | .ofNat n => toString n
  | .negSucc n => "-" ++ toString (n + 1)

def hexDigits (n : Nat) : String :=
  String.ofList (Nat.toDigits 16 n)

def upperHexDigits (n : Nat) : String :=
  String.ofList ((Nat.toDigits 16 n).map Char.toUpper)

/-- Hexadecimal with the mark `0x`, as messages and reports show bit masks. -/
def hex (n : Nat) : String :=
  "0x" ++ hexDigits n

def threeOctalDigits (n : Nat) : List Char :=
  [Nat.digitChar (n / 64 % 8), Nat.digitChar (n / 8 % 8), Nat.digitChar (n % 8)]

def zeroPadded (size n : Nat) : String :=
  let digits := toString n
  String.ofList (List.replicate (size - digits.length) '0') ++ digits

/-- The value of a digit in either case; letters count from ten. -/
def digitValue? (c : Char) : Option Nat :=
  if c.isDigit then some (c.toNat - '0'.toNat)
  else if 'a' ≤ c && c ≤ 'z' then some (c.toNat - 'a'.toNat + 10)
  else if 'A' ≤ c && c ≤ 'Z' then some (c.toNat - 'A'.toNat + 10)
  else none

def radixDigit? (radix : Nat) (c : Char) : Option Nat := do
  let digit ← digitValue? c
  if digit < radix then some digit else none

/-- The number that digits of one radix denote, most significant digit first. No digit at all is no
number. -/
def readDigits (radix : Nat) (digits : List Char) : Option Nat :=
  if digits.isEmpty then none
  else
    digits.foldlM
      (fun total c => do
        let digit ← radixDigit? radix c
        some (total * radix + digit))
      0

/-- A magnitude: the radix is ten unless a mark `0x`, `0b` or `0o`, in either case, names another.
-/
def readMagnitude : List Char → Option Nat
  | '0' :: 'x' :: digits | '0' :: 'X' :: digits => readDigits 16 digits
  | '0' :: 'b' :: digits | '0' :: 'B' :: digits => readDigits 2 digits
  | '0' :: 'o' :: digits | '0' :: 'O' :: digits => readDigits 8 digits
  | digits => readDigits 10 digits

def readSigned : List Char → Option Int
  | '-' :: rest => (readMagnitude rest).map fun magnitude => -(magnitude : Int)
  | '+' :: rest => (readMagnitude rest).map Int.ofNat
  | rest => (readMagnitude rest).map Int.ofNat

/-- Reads an entry value. A text that is no numeral, or whose value needs more than 128 bits, has
none. -/
def readValue (text : String) : Option Int := do
  let value ← readSigned ((trim text.toList).filter (· ≠ '_'))
  if Integer.Fits value then some value else none

end EnumHeader.Text

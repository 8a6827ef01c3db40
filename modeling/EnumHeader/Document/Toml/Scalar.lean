import EnumHeader.Document.Toml.Lexeme

/-!
# TOML scalars

Booleans, integers, floats, dates and times. The characters of a scalar are collected first and then
have to match one of these forms as a whole.
-/

namespace EnumHeader.Document.Toml

set_option autoImplicit false

/-- Digits with single underscores between them, the underscores taken away. -/
def separated (isDigit : Char → Bool) : List Char → Option (List Char)
  | [] => none
  | [c] => if isDigit c then some [c] else none
  | c :: '_' :: rest =>
      if isDigit c then (separated isDigit rest).map (c :: ·) else none
  | c :: rest => if isDigit c then (separated isDigit rest).map (c :: ·) else none

def wholeDigits (text : List Char) : Option (List Char) :=
  match text with
  | ['0'] => some ['0']
  | '0' :: _ => none
  | _ => separated Char.isDigit text

def splitSign : List Char → Bool × List Char
  | '-' :: rest => (true, rest)
  | '+' :: rest => (false, rest)
  | rest => (false, rest)

def radixInteger? (radix : Nat) (digits : List Char) : Option Node := do
  let found ← separated (fun c => (Text.radixDigit? radix c).isSome) digits
  let value ← Text.readDigits radix found
  some (.integer value)

/-- An integer: hexadecimal, octal and binary ones have a mark and no sign. -/
def integer? (text : List Char) : Option Node :=
  match text with
  | '0' :: 'x' :: digits => radixInteger? 16 digits
  | '0' :: 'o' :: digits => radixInteger? 8 digits
  | '0' :: 'b' :: digits => radixInteger? 2 digits
  | _ => do
      let (negative, unsigned) := splitSign text
      let digits ← wholeDigits unsigned
      let size ← Text.readDigits 10 digits
      some (.integer (if negative then -(size : Int) else size))

def isExponentMark (c : Char) : Bool :=
  c == 'e' || c == 'E'

def exponent? (text : List Char) : Option Int := do
  let (negative, unsigned) := splitSign text
  let digits ← separated Char.isDigit unsigned
  let size ← Text.readDigits 10 digits
  some (if negative then -(size : Int) else size)

/-- A float: a fraction, an exponent or both, or one of the special names. -/
def float? (text : List Char) : Option Node :=
  let (negative, unsigned) := splitSign text
  if unsigned = ['i', 'n', 'f'] then some (.real (.infinite negative))
  else if unsigned = ['n', 'a', 'n'] then some (.real .notANumber)
  else
    let front := unsigned.takeWhile fun c => !isExponentMark c
    let back := unsigned.dropWhile fun c => !isExponentMark c
    let whole := front.takeWhile (· ≠ '.')
    let fraction := front.dropWhile (· ≠ '.')
    if back.isEmpty && fraction.isEmpty then none
    else do
      let wholeFound ← wholeDigits whole
      let fractionFound ←
        match fraction with
        | [] => some []
        | _ :: digits => separated Char.isDigit digits
      let exponent ←
        match back with
        | [] => some 0
        | _ :: rest => exponent? rest
      let size ← Text.readDigits 10 (wholeFound ++ fractionFound)
      let double := Double.ofDecimal? size (exponent - fractionFound.length)
      some (.real (Real.ofSize negative double))

/-! ## Dates and times -/

def fixedDigits (count : Nat) : Reader Nat := fun text =>
  let digits := text.take count
  if digits.length = count && digits.all Char.isDigit then
    (Text.readDigits 10 digits).map fun value => (value, text.drop count)
  else none

def expect (c : Char) : List Char → Option (List Char)
  | [] => none
  | first :: rest => if first = c then some rest else none

def daysInMonth (year month : Nat) : Nat :=
  if month = 2 then
    if year % 4 = 0 ∧ (year % 100 ≠ 0 ∨ year % 400 = 0) then 29 else 28
  else if month = 4 ∨ month = 6 ∨ month = 9 ∨ month = 11 then 30
  else 31

def skipDate (text : List Char) : Option (List Char) := do
  let (year, afterYear) ← fixedDigits 4 text
  let (month, afterMonth) ← fixedDigits 2 (← expect '-' afterYear)
  let (day, rest) ← fixedDigits 2 (← expect '-' afterMonth)
  if 1 ≤ month ∧ month ≤ 12 ∧ 1 ≤ day ∧ day ≤ daysInMonth year month then some rest else none

def skipFraction : List Char → Option (List Char)
  | '.' :: rest =>
      if (rest.takeWhile Char.isDigit).isEmpty then none else some (rest.dropWhile Char.isDigit)
  | text => some text

/-- A time of day. Seconds can be left out, and a leap second is allowed in every minute. -/
def skipTime (text : List Char) : Option (List Char) := do
  let (hour, afterHour) ← fixedDigits 2 text
  let (minute, afterMinute) ← fixedDigits 2 (← expect ':' afterHour)
  if hour ≤ 23 ∧ minute ≤ 59 then
    match afterMinute with
    | ':' :: rest => do
        let (second, afterSecond) ← fixedDigits 2 rest
        if second ≤ 60 then skipFraction afterSecond else none
    | rest => some rest
  else none

def skipOffset : List Char → Option (List Char)
  | 'Z' :: rest | 'z' :: rest => some rest
  | '+' :: rest | '-' :: rest => do
      let (hours, afterHours) ← fixedDigits 2 rest
      let (minutes, left) ← fixedDigits 2 (← expect ':' afterHours)
      if hours ≤ 23 ∧ minutes ≤ 59 then some left else none
  | text => some text

def isWhole (rest : Option (List Char)) : Bool :=
  rest == some []

def isDatetime (text : List Char) : Bool :=
  isWhole (skipTime text) ||
    match skipDate text with
    | none => false
    | some [] => true
    | some (mark :: rest) =>
        (mark == 'T' || mark == 't' || mark == ' ') && isWhole ((skipTime rest).bind skipOffset)

/-! ## All scalars -/

def isScalarPart (c : Char) : Bool :=
  c.isAlphanum || c == '+' || c == '-' || c == '.' || c == '_' || c == ':'

/-- The characters of a scalar. A blank belongs to it only between a date and a time. -/
def scalarText (text : List Char) : List Char × List Char :=
  let first := text.takeWhile isScalarPart
  let rest := text.dropWhile isScalarPart
  match rest with
  | ' ' :: next :: later =>
      if isWhole (skipDate first) && next.isDigit then
        (first ++ ' ' :: (next :: later).takeWhile isScalarPart,
          (next :: later).dropWhile isScalarPart)
      else (first, rest)
  | _ => (first, rest)

def scalarNode? (text : List Char) : Option Node :=
  if text = ['t', 'r', 'u', 'e'] then some (.boolean true)
  else if text = ['f', 'a', 'l', 's', 'e'] then some (.boolean false)
  else if isDatetime text then some .datetime
  else
    match integer? text with
    | some node => some node
    | none => float? text

def scalar : Reader Node := fun text => do
  let (found, rest) := scalarText text
  let node ← scalarNode? found
  some (node, rest)

end EnumHeader.Document.Toml

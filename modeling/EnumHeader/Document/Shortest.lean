import EnumHeader.Document.Basic

/-!
# Shortest number texts

Numbers with a fraction or an exponent are double precision numbers. A message shows one by the
fewest decimal digits that read back as the same double, and among those by the digits nearest to
it. The numbers that read back as a double form an interval, whose ends are compared as fractions.
-/

namespace EnumHeader.Document

set_option autoImplicit false

/-- Which of two texts is written when both are equally near. -/
inductive Tie where
  | larger
  | even
  deriving Repr, DecidableEq, Inhabited

namespace Double

def lowerEnd (double : Double) : Fraction :=
  if double.mantissa = Nat.pow 2 52 ∧ minExponent < double.exponent then
    Fraction.scaled (4 * double.mantissa - 1) 2 (double.exponent - 2)
  else Fraction.scaled (2 * double.mantissa - 1) 2 (double.exponent - 1)

def upperEnd (double : Double) : Fraction :=
  Fraction.scaled (2 * double.mantissa + 1) 2 (double.exponent - 1)

/-- A fraction is nearest to this double; the middle belongs to the even mantissa. -/
def readsBack (double : Double) (fraction : Fraction) : Bool :=
  if double.mantissa % 2 = 0 then
    double.lowerEnd.le fraction && fraction.le double.upperEnd
  else double.lowerEnd.lt fraction && fraction.lt double.upperEnd

/-- The number of decimal digits before the point, negative for leading zeros after it. -/
def pointPosition (double : Double) : Int :=
  let value := double.value
  let digits (n : Nat) : Int := (toString n).length
  let guess := digits value.numerator - digits value.denominator
  if value.lt (Fraction.scaled 1 10 guess) then guess else guess + 1

/-- The nearest number with digits down to the given decimal place that reads back. -/
def candidate? (tie : Tie) (double : Double) (place : Int) : Option Nat :=
  let unit := Fraction.scaled 1 10 place
  let below := double.value.floorBy unit
  let fits (n : Nat) : Bool := double.readsBack (Fraction.scaled n 10 place)
  let gap (n : Nat) : Fraction := double.value.distance (Fraction.scaled n 10 place)
  if fits below && fits (below + 1) then
    if (gap (below + 1)).lt (gap below) then some (below + 1)
    else if (gap below).lt (gap (below + 1)) then some below
    else if tie = .even ∧ below % 2 = 0 then some below
    else some (below + 1)
  else if fits below then some below
  else if fits (below + 1) then some (below + 1)
  else none

/-- The shortest digits with the place of the last one. -/
def shortest (tie : Tie) (double : Double) : Nat × Int :=
  let point := double.pointPosition
  let attempts := (List.range 17).filterMap fun (n : Nat) =>
    let place := point - (n + 1 : Int)
    (double.candidate? tie place).map fun digits => (digits, place)
  attempts.head?.getD (0, 0)

end Double

def withoutEndZeros : Nat → Nat → Int → Nat × Int
  | 0, digits, place => (digits, place)
  | fuel + 1, digits, place =>
      if digits ≠ 0 ∧ digits % 10 = 0 then withoutEndZeros fuel (digits / 10) (place + 1)
      else (digits, place)

def zeros (count : Int) : String :=
  String.ofList (List.replicate count.toNat '0')

def positional (digits : Nat) (place : Int) : String :=
  let text := toString digits
  let before := text.length + place
  if 0 ≤ place then text ++ zeros place ++ ".0"
  else if 0 < before then
    String.ofList (text.toList.take before.toNat) ++ "." ++
      String.ofList (text.toList.drop before.toNat)
  else "0." ++ zeros (-before) ++ text

def scientific (digits : Nat) (place : Int) : String :=
  let text := toString digits
  let fraction := String.ofList (text.toList.drop 1)
  let exponent := text.length + place - 1
  String.ofList (text.toList.take 1) ++ (if fraction.isEmpty then "" else "." ++ fraction) ++ "e" ++
    (if 0 ≤ exponent then "+" else "") ++ Text.decimal exponent

/-- TOML messages never use an exponent; JSON messages use one outside of 10^-5 to 10^16. -/
def numberText (format : Format) (digits : Nat) (place : Int) : String :=
  let point := (toString digits).length + place
  match format with
  | .toml => positional digits place
  | .json =>
      if -5 < point ∧ point ≤ 16 then positional digits place else scientific digits place

/-- Of two equally near texts TOML messages take the larger number, JSON messages the even one. -/
def Format.tie : Format → Tie
  | .toml => .larger
  | .json => .even

def Double.text (format : Format) (double : Double) : String :=
  if double.mantissa = 0 then numberText format 0 0
  else
    let (digits, place) := double.shortest format.tie
    let (digits, place) := withoutEndZeros 20 digits place
    numberText format digits place

/-- The text of a number in a message. A number that is too large has none of its own. -/
def Real.text (format : Format) : Real → String
  | .finite negative size => (if negative then "-" else "") ++ size.text format
  | .infinite negative => if negative then "-inf" else "inf"
  | .tooLarge | .notANumber => "NaN"

end EnumHeader.Document

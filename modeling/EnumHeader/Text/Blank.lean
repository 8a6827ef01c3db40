/-!
# Blank characters

The characters with the Unicode property White_Space, and trimming by that property. Separators that
look like blanks but lack the property (U+001C to U+001F, U+200B, U+FEFF) are kept by every function
here.
-/

namespace EnumHeader.Text

set_option autoImplicit false

/-- The White_Space characters as inclusive ranges of code points, in ascending order. -/
def blankRanges : List (Nat × Nat) :=
  [(0x09, 0x0D), (0x20, 0x20), (0x85, 0x85), (0xA0, 0xA0), (0x1680, 0x1680), (0x2000, 0x200A),
    (0x2028, 0x2029), (0x202F, 0x202F), (0x205F, 0x205F), (0x3000, 0x3000)]

def inRanges (ranges : List (Nat × Nat)) (c : Char) : Bool :=
  ranges.any fun range => range.1 ≤ c.toNat && c.toNat ≤ range.2

def isBlank (c : Char) : Bool :=
  inRanges blankRanges c

def trimLeft (text : List Char) : List Char :=
  text.dropWhile isBlank

def trimRight (text : List Char) : List Char :=
  (text.reverse.dropWhile isBlank).reverse

def trim (text : List Char) : List Char :=
  trimRight (trimLeft text)

def isBlankText (text : String) : Bool :=
  text.toList.all isBlank

end EnumHeader.Text

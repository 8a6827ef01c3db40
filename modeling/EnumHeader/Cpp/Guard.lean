import EnumHeader.Cpp.Layout
import EnumHeader.Cpp.Literal
import EnumHeader.Validity

/-!
# Validity guards

The body of the generated `is_valid`, as data: a comparison with literals, a search of the table of
values, or nothing to test at all. A guard is the validity check of a model with its bounds turned
into literals.
-/

namespace EnumHeader.Cpp

set_option autoImplicit false

inductive Guard where
  | always
  | equal (value : Literal)
  | atMost (max : Literal)
  | atLeast (min : Literal)
  | between (min max : Literal)
  /-- The value is in the table of values. -/
  | listed
  /-- The value has no bit outside the mask. -/
  | within (mask : Literal)
  deriving Repr, DecidableEq, Inhabited

namespace Guard

def ofValidity (kind : Kind) : Validity → Guard
  | .singleValue value => .equal (Literal.ofValue kind value)
  | .always => .always
  | .upperBound max => .atMost (Literal.ofValue kind max)
  | .lowerBound min => .atLeast (Literal.ofValue kind min)
  | .range min max => .between (Literal.ofValue kind min) (Literal.ofValue kind max)
  | .scan _ => .listed
  | .flagsLowMask mask => .atMost (Literal.ofMask mask Literal.underlying)
  | .flagsMask mask => .within (Literal.ofMask mask Literal.underlying)

/-- The parameter has a name only where the body uses it. -/
def parameter : Guard → String
  | .always => "underlying_type"
  | _ => "underlying_type v"

def steps : Guard → List Step
  | .always => [.line "return true;"]
  | .equal value => [.line ("return v == " ++ value.text ++ ";")]
  | .atMost max => [.line ("return v <= " ++ max.text ++ ";")]
  | .atLeast min => [.line ("return v >= " ++ min.text ++ ";")]
  | .between min max =>
      [.line ("return v >= " ++ min.text ++ " && v <= " ++ max.text ++ ";")]
  | .listed =>
      [.opening "for (const Value candidate : values)",
        .opening "if (static_cast<underlying_type>(candidate) == v)",
        .line "return true;",
        .closing "\x7d",
        .closing "\x7d",
        .line "return false;"]
  | .within mask => [.line ("return (v | " ++ mask.text ++ ") == " ++ mask.text ++ ";")]

end Guard

end EnumHeader.Cpp

import EnumHeader.Cpp.Wrapper.Shared

/-!
# Wrappers of flags enums

The struct that holds a mask, with the operations on single flags and the bit operators.
-/

namespace EnumHeader.Cpp.Wrapper

set_option autoImplicit false

variable (config : Config) (model : Model)

def defaultMask : Literal :=
  Literal.ofMask (Integer.pattern model.defaultValue) Literal.underlying

def allFlags : Literal :=
  Literal.ofMask model.metadata.usedBits Literal.underlying

def flagsConversions : List Member :=
  [staticMethod config model.name "from_underlying_unsafe" "underlying_type v"
      [.line (model.name ++ " result;"), .line "result.value_ = v;", .line "return result;"],
    fromInteger config model "from_underlying_unsafe(v)"]

def flagsAccess : List Member :=
  [reader config "underlying_type" "to_underlying" "" [.line "return value_;"],
    modifier "reset_to_default" "" "value_ = default_value();",
    modifier "reset_zero" "" "value_ = 0;"]

def cast (operand : String) : String :=
  "static_cast<underlying_type>(" ++ operand ++ ")"

def flagOperations : List Member :=
  let flag := cast "flag"
  [reader config "bool" "test" "Value flag"
      [.line ("return (value_ & " ++ flag ++ ") == " ++ flag ++ ";")],
    modifier "set" "Value flag" ("value_ = " ++ cast ("value_ | " ++ flag) ++ ";"),
    modifier "unset" "Value flag" ("value_ = " ++ cast ("value_ & ~" ++ flag) ++ ";"),
    modifier "flip" "Value flag" ("value_ = " ++ cast ("value_ ^ " ++ flag) ++ ";"),
    modifier "flip_all" "" ("value_ = " ++ cast "value_ ^ all_flags_mask()" ++ ";"),
    .gap,
    reader config "bool" "all" ""
      [.line "return (value_ & all_flags_mask()) == all_flags_mask();"],
    reader config "bool" "any" "" [.line "return (value_ & all_flags_mask()) != 0;"],
    reader config "bool" "none" "" [.line "return (value_ & all_flags_mask()) == 0;"],
    reader config "bool" "is_single" ""
      [.line "return value_ != 0 && (value_ & (value_ - 1)) == 0;"]]

def complement (owner : String) : List Member :=
  [friendFunction "Value operator~(Value a)"
      ("return static_cast<Value>(" ++ cast ("~" ++ cast "a") ++ ");"),
    friendFunction (owner ++ " operator~(" ++ owner ++ " a)")
      ("return " ++ owner ++ "::from_underlying_unsafe(" ++ cast "~a.value_" ++ ");")]

def combined (op : String) : String :=
  "static_cast<Value>(" ++ cast (cast "a" ++ " " ++ op ++ " " ++ cast "b") ++ ")"

/-- A friend operator that assigns to its first operand and returns it. -/
def assignment (owner op operand statement : String) : Member :=
  .friend
    ("friend constexpr " ++ owner ++ "& operator" ++ op ++ "=(" ++ owner ++ "& a, " ++ operand ++
      " b) noexcept")
    [.line statement, .line "return a;"]

/-- One bit operator on every pairing of wrapper and enumeration, and its assignments. -/
def bitOperator (owner op : String) : List Member :=
  let signature (result left right : String) : String :=
    result ++ " operator" ++ op ++ "(" ++ left ++ " a, " ++ right ++ " b)"
  [.gap,
    friendFunction (signature "Value" "Value" "Value") ("return " ++ combined op ++ ";"),
    friendFunction (signature owner owner owner)
      ("return " ++ owner ++ "::from_underlying_unsafe(" ++
        cast ("a.value_ " ++ op ++ " b.value_") ++ ");"),
    friendFunction (signature owner owner "Value") ("return a " ++ op ++ " " ++ owner ++ "(b);"),
    friendFunction (signature owner "Value" owner) ("return " ++ owner ++ "(a) " ++ op ++ " b;"),
    assignment "Value" op "Value" ("a = " ++ combined op ++ ";"),
    assignment owner op owner ("a.value_ = " ++ cast ("a.value_ " ++ op ++ " b.value_") ++ ";"),
    friendFunction (owner ++ "& operator" ++ op ++ "=(" ++ owner ++ "& a, Value b)")
      ("return a " ++ op ++ "= " ++ owner ++ "(b);")]

def bitOperators (owner : String) : List Member :=
  complement owner ++ ["|", "&", "^"].flatMap (bitOperator owner)

def ofFlagsEnum : Struct where
  comment := commentLines model.definition.description
  name := model.name
  members :=
    declarations model ++
      [.gap, constructorOf model "" (defaultMask model).text,
        constructorOf model "Value v" (cast "v"), .gap] ++
      flagsConversions config model ++
      [.gap] ++
      flagsAccess config ++
      [.gap,
        query config "underlying_type" "default_value" (defaultMask model).text,
        query config "underlying_type" "all_flags_mask" (allFlags model).text] ++
      introspection config model ++
      [.gap] ++
      validityMembers config model ++
      [.gap] ++
      flagOperations config ++
      stringMembers config model ++
      [.gap] ++
      equality model.name ++
      [.gap] ++
      bitOperators model.name ++
      [.gap, .privateField "underlying_type" "value_"]

end EnumHeader.Cpp.Wrapper

import EnumHeader.Cpp.Wrapper.Shared

/-!
# Wrappers of value enums

The struct that holds one constant of its enumeration.
-/

namespace EnumHeader.Cpp.Wrapper

set_option autoImplicit false

variable (config : Config) (model : Model)

def defaultConstant : String :=
  "Value::" ++ (model.defaultEntry?.getD model.least).name

def valueConversions : List Member :=
  let construct := model.name ++ "(static_cast<Value>(v))"
  [staticMethod config model.name "from_underlying_unsafe" "underlying_type v"
      [.line (config.assertion ++ "(is_valid(v));"), .line ("return " ++ construct ++ ";")],
    fromInteger config model construct]

def valueAccess : List Member :=
  [reader config "Value" "value" "" [.line "return value_;"],
    .conversion "constexpr operator Value() const noexcept" [.line "return value_;"],
    reader config "underlying_type" "to_underlying" ""
      [.line "return static_cast<underlying_type>(value_);"],
    modifier "reset_to_default" "" "value_ = default_value();"]

def ofValueEnum : Struct where
  comment := commentLines model.definition.description
  name := model.name
  members :=
    declarations model ++
      [.gap, constructorOf model "" (defaultConstant model),
      constructorOf model "Value v" "v", .gap] ++
      valueConversions config model ++
      [.gap] ++
      valueAccess config ++
      [.gap, query config "Value" "default_value" (defaultConstant model)] ++
      introspection config model ++
      [.gap] ++
      validityMembers config model ++
      stringMembers config model ++
      [.gap] ++
      equality model.name ++
      [.gap, .privateField "Value" "value_"]

end EnumHeader.Cpp.Wrapper

import EnumHeader.Cpp.Wrapper.FlagsEnum
import EnumHeader.Cpp.Wrapper.ValueEnum

/-!
# Wrapper structs

What is generated for one model: the wrapper struct in the namespace of the configuration, and the
specializations that describe it to the shared templates.
-/

namespace EnumHeader.Cpp

set_option autoImplicit false

def wrapper (config : Config) (model : Model) : Struct :=
  match model.kind with
  | .value => Wrapper.ofValueEnum config model
  | .flags => Wrapper.ofFlagsEnum config model

/-- A field of a bit-field struct cannot have width zero. -/
def packedBits (model : Model) : Nat :=
  max model.metadata.storageBits 1

def infoConstant (constantType name value : String) : Step :=
  .line ("static constexpr " ++ constantType ++ " " ++ name ++ " = " ++ value ++ ";")

/-- The specializations of `enum_info` for the wrapper and for its enumeration. -/
def enumInfo (config : Config) (model : Model) : List Step :=
  let owner := config.qualified model.name
  let metadata := model.metadata
  let isFlags := model.kind == .flags
  [.line "template <>",
    .opening ("struct enum_info<" ++ owner ++ ">"),
    infoConstant "bool" "is_generated_enum" "true",
    infoConstant "bool" "is_value_enum" (Wrapper.boolText !isFlags),
    infoConstant "bool" "is_flags_enum" (Wrapper.boolText isFlags),
    .line ("using enum_type = " ++ owner ++ ";"),
    .line ("using value_type = " ++ owner ++ "::Value;"),
    .line ("using underlying_type = " ++ owner ++ "::underlying_type;"),
    infoConstant "std::size_t" "count" (toString metadata.uniqueCount),
    infoConstant "bool" "is_contiguous" (Wrapper.boolText metadata.isContiguous),
    infoConstant "int" "bits_required_storage" (toString metadata.storageBits),
    infoConstant "int" "bits_required_transmission" (toString metadata.transmissionBits),
    infoConstant "int" "packed_bits" (toString (packedBits model)),
    infoConstant "underlying_type" "default_underlying" (owner ++ "().to_underlying()"),
    .closing "\x7d;",
    .blank,
    .line "template <>",
    .line ("struct enum_info<" ++ owner ++ "::Value> : enum_info<" ++ owner ++ ">"),
    .line "\x7b",
    .line "\x7d;"]

end EnumHeader.Cpp

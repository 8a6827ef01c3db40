import EnumHeader.Cpp.Wrapper
import EnumHeader.Proofs.Cpp.Reading.Lines
import EnumHeader.Proofs.Cpp.Reading.Table

/-!
# Reading of specializations

The integer constants that a specialization of the shared templates declares, read from the lines in
which it is printed. The first declaration of a name counts. Names of enums stand in other lines of
the specialization and may be any text, so lines are told apart by how they begin.
-/

namespace EnumHeader.Cpp.Reading

set_option autoImplicit false

def readIntConstant (name : String) : List Token → Option Nat
  | [.word "static", .word "constexpr", .word "int", .word other, .mark "=", .number text,
      .mark ";"] =>
      if other = name then
        match readNumber text with
        | some (.integer value _ _) => some value
        | _ => none
      else none
  | _ => none

/-- The number that printed lines declare for that name. -/
def declaredNumber (name : String) (steps : List Step) : Option Nat :=
  (steps.flatMap Step.written).findSome? fun line => readIntConstant name (tokens line)

theorem read_int_constant_of_start (name : String) {start word : String} {more : List Token}
    {pending : Pending} (starts : advance .nothing start.toList = (.word word :: more, pending))
    (other : word ≠ "static") (middle last : String) :
    readIntConstant name (tokens (start ++ middle ++ last)) = none := by
  unfold tokens
  rw [String.append_assoc, String.toList_append, scan_piece starts]
  unfold readIntConstant
  split
  next same => simp_all
  next => rfl

theorem read_int_constant_of_type (name : String) {constantType : String} {third : Token}
    {more : List Token} {pending : Pending}
    (starts : advance .nothing ("static constexpr " ++ constantType ++ " ").toList =
      (.word "static" :: .word "constexpr" :: third :: more, pending))
    (other : third ≠ .word "int") (declared value : String) :
    readIntConstant name
      (tokens ("static constexpr " ++ constantType ++ " " ++ declared ++ " = " ++ value ++ ";")) =
        none := by
  have parts : "static constexpr " ++ constantType ++ " " ++ declared ++ " = " ++ value ++ ";" =
      ("static constexpr " ++ constantType ++ " ") ++ (declared ++ " = " ++ value ++ ";") := by
    simp only [String.append_assoc]
  unfold tokens
  rw [parts, String.toList_append, scan_piece starts]
  unfold readIntConstant
  split
  next same => simp_all
  next => rfl

theorem read_int_constant {declared : String} (word : IsWord declared) (name : String)
    (value : Nat) :
    readIntConstant name
        (tokens ("static constexpr " ++ "int" ++ " " ++ declared ++ " = " ++ toString value ++ ";")) =
      if declared = name then some value else none := by
  have opening : advance .nothing ("static constexpr " ++ "int" ++ " ").toList =
      ([.word "static", .word "constexpr", .word "int"], .nothing) := by decide
  have equals : advance .nothing " = ".toList = ([.mark "="], .nothing) := by decide
  have ending : scan .nothing ";".toList = [.mark ";"] := by decide
  have afterName (rest : List Char) : Separate (" = ".toList ++ rest) :=
    separate_append (by decide) rest
  have afterValue : Separate ";".toList := separate_of_separates (by decide)
  unfold tokens
  rw [String.toList_append, String.toList_append, String.toList_append, String.toList_append]
  simp only [List.append_assoc, decimal_of_nat]
  rw [scan_piece opening, scan_name word _ (afterName _), scan_piece equals,
    scan_number (decimal_is_number value .none) _ afterValue, ending]
  simp [readIntConstant, read_decimal]

theorem declared_packed_bits (config : Config) (model : Model) :
    declaredNumber "packed_bits" (enumInfo config model) = some (packedBits model) := by
  have template : readIntConstant "packed_bits" (tokens "template <>") = none := by decide
  have brace : readIntConstant "packed_bits" (tokens "\x7b") = none := by decide
  have heading := read_int_constant_of_start "packed_bits"
    (by decide : advance .nothing "struct enum_info<".toList =
      ([.word "struct", .word "enum_info"], .mark ['<'])) (by decide)
  have enumType := read_int_constant_of_start "packed_bits"
    (by decide : advance .nothing "using enum_type = ".toList =
      ([.word "using", .word "enum_type", .mark "="], .nothing)) (by decide)
  have valueType := read_int_constant_of_start "packed_bits"
    (by decide : advance .nothing "using value_type = ".toList =
      ([.word "using", .word "value_type", .mark "="], .nothing)) (by decide)
  have storageType := read_int_constant_of_start "packed_bits"
    (by decide : advance .nothing "using underlying_type = ".toList =
      ([.word "using", .word "underlying_type", .mark "="], .nothing)) (by decide)
  have boolean := read_int_constant_of_type "packed_bits"
    (by decide : advance .nothing ("static constexpr " ++ "bool" ++ " ").toList =
      ([.word "static", .word "constexpr", .word "bool"], .nothing)) (by decide)
  have size := read_int_constant_of_type "packed_bits"
    (by decide : advance .nothing ("static constexpr " ++ "std::size_t" ++ " ").toList =
      ([.word "static", .word "constexpr", .word "std", .mark "::", .word "size_t"], .nothing))
    (by decide)
  have storage := read_int_constant (by decide : IsWord "bits_required_storage") "packed_bits"
    model.metadata.storageBits
  have transmission := read_int_constant (by decide : IsWord "bits_required_transmission")
    "packed_bits" model.metadata.transmissionBits
  have packed := read_int_constant (by decide : IsWord "packed_bits") "packed_bits"
    (packedBits model)
  rw [if_neg (by decide)] at storage transmission
  rw [if_pos rfl] at packed
  simp only [declaredNumber, enumInfo, infoConstant, List.flatMap_cons, Step.written,
    List.cons_append, List.nil_append, List.findSome?_cons, template, brace, heading, enumType,
    valueType, storageType, boolean, size, storage, transmission, packed]

end EnumHeader.Cpp.Reading

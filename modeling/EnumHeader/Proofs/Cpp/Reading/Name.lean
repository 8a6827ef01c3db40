import EnumHeader.Cpp.Lookup
import EnumHeader.Proofs.Cpp.Reading.Chain
import EnumHeader.Proofs.Cpp.Reading.Number
import EnumHeader.Proofs.Text.Identifier

/-!
# Constants in front of any text

The names of constants in generated bodies, plain or cast to the storage type, are read as what they
are called. Entries that are not identifiers are left out, because their names are not one word.
-/

namespace EnumHeader.Cpp.Reading

set_option autoImplicit false

/-- The name can stand in the source without being taken for something else. -/
structure IsName (name : String) : Prop where
  word : IsWord name
  plain : name ≠ "static_cast"

theorem is_word_of_name {name : String} (shaped : Text.isNameShaped name.toList = true) :
    IsWord name := by
  refine ⟨?_, Text.parts_of_name shaped, ?_⟩
  · intro empty
    simp [empty, Text.isNameShaped] at shaped
  · intro c head
    obtain ⟨rest, text⟩ : ∃ rest, name.toList = c :: rest := List.head?_eq_some_iff.1 head
    simp only [text, Text.isNameShaped, Bool.and_eq_true] at shaped
    exact Text.digit_of_name_start shaped.1

theorem is_name_of_identifier {name : String} (identifier : Text.isIdentifier name = true) :
    IsName name := by
  refine ⟨is_word_of_name (Text.name_shaped_of_identifier identifier), ?_⟩
  rintro rfl
  exact absurd identifier (by decide)

def constantTokens (name : String) : List Token :=
  [.word "Value", .mark "::", .word name]

theorem scan_constant {name : String} (word : IsWord name) (rest : List Char)
    (separate : Separate rest) :
    scan .nothing ("Value::".toList ++ (name.toList ++ rest)) =
      constantTokens name ++ scan .nothing rest := by
  have opening : advance .nothing "Value::".toList = ([.word "Value"], .mark [':', ':']) := by
    decide
  have symbol : String.ofList [':', ':'] = "::" := by decide
  rw [scan_piece opening, scan_mark_word word.nonempty word.parts, scan_name word rest separate,
    symbol]
  simp only [constantTokens, List.cons_append, List.nil_append]

theorem read_constant (name symbol : String) (ends : EndsName symbol) (fuel : Nat)
    (rest : List Token) :
    readOperand (fuel + 1) (constantTokens name ++ .mark symbol :: rest) =
      some (.name ["Value", name], .mark symbol :: rest) :=
  read_qualified_operand "Value" name symbol (by decide) ends fuel rest

def labelTokens (kind : Kind) (entry : String) : List Token :=
  match kind with
  | .value => constantTokens entry
  | .flags =>
      [.word "static_cast", .mark "<", .word "underlying_type", .mark ">", .mark "("] ++
        constantTokens entry ++ [.mark ")"]

def labelExpression (kind : Kind) (entry : String) : Expression :=
  match kind with
  | .value => .name ["Value", entry]
  | .flags => .cast "underlying_type" (.name ["Value", entry])

theorem scan_label (kind : Kind) {entry : String} (word : IsWord entry) (rest : List Char)
    (separate : Separate rest) :
    scan .nothing ((caseLabel kind entry).toList ++ rest) =
      labelTokens kind entry ++ scan .nothing rest := by
  cases kind with
  | value =>
      have label : (caseLabel .value entry).toList = "Value::".toList ++ entry.toList := by
        have text : caseLabel .value entry = "Value::" ++ entry := rfl
        simp [text]
      rw [label, List.append_assoc, scan_constant word rest separate]
      rfl
  | flags =>
      have opening : advance .nothing "static_cast<underlying_type>(".toList =
          ([.word "static_cast", .mark "<", .word "underlying_type", .mark ">", .mark "("],
            .nothing) := by decide
      have closing : advance .nothing ")".toList = ([.mark ")"], .nothing) := by decide
      have afterName : Separate (")".toList ++ rest) := separate_append (by decide) rest
      have label : (caseLabel .flags entry).toList =
          "static_cast<underlying_type>(".toList ++
            ("Value::".toList ++ (entry.toList ++ ")".toList)) := by
        have text : caseLabel .flags entry =
            "static_cast<underlying_type>(Value::" ++ entry ++ ")" := rfl
        simp [text]
      rw [label]
      simp only [List.append_assoc]
      rw [scan_piece opening, scan_constant word _ afterName, scan_piece closing]
      simp only [labelTokens, List.append_assoc, List.cons_append, List.nil_append]

theorem read_label (kind : Kind) (entry symbol : String) (ends : EndsName symbol) (fuel : Nat)
    (rest : List Token) :
    readOperand (fuel + 3) (labelTokens kind entry ++ .mark symbol :: rest) =
      some (labelExpression kind entry, .mark symbol :: rest) := by
  cases kind with
  | value => exact read_constant entry symbol ends (fuel + 2) rest
  | flags =>
      have inner := read_constant entry ")" (by decide) fuel (.mark symbol :: rest)
      have whole := read_static_cast "underlying_type"
        (read_chain_operand inner (stops_parenthesis 0 _))
      simpa [labelTokens, labelExpression] using whole

end EnumHeader.Cpp.Reading

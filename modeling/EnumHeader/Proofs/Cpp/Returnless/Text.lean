import EnumHeader.Cpp.Comment
import EnumHeader.Cpp.Literal
import EnumHeader.Proofs.Cpp.Naming
import EnumHeader.Proofs.Cpp.Quotation
import EnumHeader.Proofs.Text.Lines
import EnumHeader.Proofs.Text.Numeral

/-!
# Texts without carriage returns

Names, numerals and string literals have no carriage return, whatever the text of the literal is. A
comment has one just where its line has, past the blanks at the end.
-/

namespace EnumHeader.Cpp

set_option autoImplicit false

def Returnless (text : String) : Prop :=
  '\r' ∉ text.toList

instance (text : String) : Decidable (Returnless text) :=
  inferInstanceAs (Decidable ('\r' ∉ text.toList))

/-- A literal is matched with the list of its characters, which is cheaper than taking it apart. -/
theorem Returnless.literal {chars : List Char} (free : chars.all (· != '\r') = true) :
    Returnless (String.ofList chars) := by
  intro inside
  rw [String.toList_ofList] at inside
  exact absurd (List.all_eq_true.1 free _ inside) (by decide)

theorem returnless_append {first second : String} :
    Returnless (first ++ second) ↔ Returnless first ∧ Returnless second := by
  simp [Returnless]

theorem returnless_of_parts {text : String} (parts : ∀ c ∈ text.toList, Text.isNamePart c = true) :
    Returnless text :=
  fun inside => absurd (parts _ inside) (by decide)

theorem returnless_of_identifier {name : String} (identifier : Text.isIdentifier name = true) :
    Returnless name :=
  returnless_of_parts (Text.parts_of_identifier identifier)

section Numerals

theorem part_of_digit {digit : Nat} (small : digit < 16) :
    Text.isNamePart (Nat.digitChar digit) = true ∧
      Text.isNamePart (Nat.digitChar digit).toUpper = true := by
  revert digit
  decide

theorem returnless_number (n : Nat) : Returnless (toString n) := by
  apply returnless_of_parts
  intro c member
  have digits : (toString n).toList = Nat.toDigits 10 n := by simp
  rw [digits] at member
  obtain ⟨digit, small, rfl⟩ := Text.to_digits_subset (by decide) n c member
  exact (part_of_digit (by omega)).1

theorem returnless_hex (n : Nat) : Returnless (Text.upperHexDigits n) := by
  apply returnless_of_parts
  intro c member
  simp only [Text.upperHexDigits, String.toList_ofList, List.mem_map] at member
  obtain ⟨c, member, rfl⟩ := member
  obtain ⟨digit, small, rfl⟩ := Text.to_digits_subset (by decide) n c member
  exact (part_of_digit small).2

theorem returnless_decimal (value : Int) : Returnless (Text.decimal value) := by
  cases value with
  | ofNat n => exact returnless_number n
  | negSucc n => exact returnless_append.2 ⟨.literal rfl, returnless_number (n + 1)⟩

theorem returnless_suffix (suffix : Suffix) : Returnless suffix.text := by
  cases suffix <;> exact .literal rfl

def Literal.typeNames : Literal → List String
  | .halves _ _ typeName => [typeName]
  | .decimal .. | .negatedLessOne .. | .hexadecimal .. => []

theorem returnless_of_literal {literal : Literal}
    (typed : ∀ name ∈ literal.typeNames, Returnless name) : Returnless literal.text := by
  have number := returnless_number
  have hex := returnless_hex
  have suffixed := returnless_suffix
  unfold Literal.text
  cases literal with
  | decimal value suffix =>
      simp only [returnless_append]
      exact ⟨returnless_decimal value, suffixed suffix⟩
  | negatedLessOne magnitude suffix =>
      simp only [returnless_append, number, suffixed, and_true]
      exact ⟨.literal rfl, .literal rfl⟩
  | hexadecimal value suffix =>
      simp only [returnless_append, hex, suffixed, and_true]
      exact .literal rfl
  | halves high low typeName =>
      have named : Returnless typeName := typed typeName (List.mem_singleton.2 rfl)
      simp only [returnless_append, hex, named, and_true]
      exact ⟨⟨⟨⟨.literal rfl, .literal rfl⟩, .literal rfl⟩, .literal rfl⟩, .literal rfl⟩

theorem types_of_int (value : Int) (typeName : String) :
    ∀ name ∈ (Literal.ofInt value typeName).typeNames, name = typeName := by
  unfold Literal.ofInt
  split_ifs <;> simp [Literal.typeNames, Literal.ofHalves]

theorem types_of_mask (mask : Nat) (typeName : String) :
    ∀ name ∈ (Literal.ofMask mask typeName).typeNames, name = typeName := by
  unfold Literal.ofMask
  split_ifs <;> simp [Literal.typeNames, Literal.ofHalves]

theorem returnless_of_mask (mask : Nat) :
    Returnless (Literal.ofMask mask Literal.underlying).text := by
  apply returnless_of_literal
  intro name member
  rw [types_of_mask mask _ name member]
  exact .literal rfl

theorem returnless_of_value (kind : Kind) (value : Int) :
    Returnless (Literal.ofValue kind value).text := by
  cases kind with
  | flags => exact returnless_of_mask _
  | value =>
      apply returnless_of_literal
      intro name member
      rw [types_of_int value _ name member]
      exact .literal rfl

end Numerals

section Quoted

theorem returnless_quoted (stringType : StringType) (content : String) :
    Returnless (stringLiteral stringType content) := by
  have mark : '\r' ∉ literalMark stringType := by cases stringType <;> decide
  have inside : '\r' ∉ escaped content.toList := by
    intro within
    obtain ⟨c, -, part⟩ := List.mem_flatMap.1 within
    exact escaped_char_printable c _ part (by decide)
  simp [Returnless, stringLiteral, mark, inside]

end Quoted

section Comments

theorem returnless_comment_line (line : List Char) :
    Returnless (commentLine line) ↔ '\r' ∉ Text.trimRight line := by
  have start : Returnless "// " := .literal rfl
  have ending : Returnless " //" := .literal rfl
  have kept : Returnless (String.ofList (Text.trimRight line)) ↔ '\r' ∉ Text.trimRight line := by
    simp [Returnless]
  unfold commentLine
  simp only
  split_ifs with empty
  · have nothing : Returnless "//" := .literal rfl
    simp [nothing, List.isEmpty_iff.1 empty]
  · simp only [returnless_append, start, ending, kept, true_and, and_true]
  · simp only [returnless_append, start, kept, true_and]

theorem returnless_comments (text : String) :
    (∀ line ∈ commentLines text, Returnless line) ↔ ¬Text.BreaksLine text.toList := by
  simp only [Text.breaks_line_iff, commentLines, List.forall_mem_map, returnless_comment_line,
    not_exists, not_and]

end Comments

section Names

variable {config : Config} (names : config.GivenNames)
include names

theorem returnless_start : Returnless config.macroPrefix := by
  apply returnless_of_parts
  simpa [Config.macroPrefix] using Text.parts_of_upper (Text.parts_of_identifier names.runtime)

theorem returnless_runtime : Returnless config.runtimeNamespace :=
  returnless_of_identifier names.runtime

theorem returnless_guard : Returnless config.includeGuardMacro :=
  returnless_of_identifier names.guard_named

theorem returnless_nodiscard : Returnless config.nodiscard :=
  returnless_append.2 ⟨returnless_start names, .literal rfl⟩

theorem returnless_assertion : Returnless config.assertion :=
  returnless_append.2 ⟨returnless_start names, .literal rfl⟩

theorem returnless_namespace : Returnless config.namespaceText := by
  intro inside
  rcases Text.mem_intercalate inside with between | ⟨segment, member, within⟩
  · exact absurd between (by decide)
  · exact returnless_of_identifier (names.path segment member) within

theorem returnless_qualified {name : String} (own : Returnless name) :
    Returnless (config.qualified name) := by
  have segments : Returnless (String.join (config.namespacePath.map (· ++ "::"))) := by
    intro inside
    rw [String.toList_join] at inside
    obtain ⟨text, listed, within⟩ := List.mem_flatMap.1 inside
    obtain ⟨segment, member, rfl⟩ := List.mem_map.1 listed
    exact returnless_append.2 ⟨returnless_of_identifier (names.path segment member),
      .literal rfl⟩ within
  exact returnless_append.2 ⟨returnless_append.2 ⟨.literal rfl, segments⟩, own⟩

end Names

end EnumHeader.Cpp

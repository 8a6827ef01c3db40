import EnumHeader.Proofs.Cpp.Naming
import EnumHeader.Proofs.Cpp.Nesting.Conditional
import EnumHeader.Proofs.Cpp.Nesting.Scan
import EnumHeader.Proofs.Cpp.Reading.Name
import EnumHeader.Proofs.Text.Numeral

/-!
# Texts that open and close nothing

Identifiers, macros made from them and numerals consist of harmless characters, and so does most of
what is written around them. Under an accepted configuration all names that it gives to generated
code are harmless.
-/

namespace EnumHeader.Cpp.Nesting

set_option autoImplicit false

def Harmless (text : String) : Prop :=
  ∀ c ∈ text.toList, isHarmless c = true

instance (text : String) : Decidable (Harmless text) :=
  decidable_of_iff (text.toList.all isHarmless = true) List.all_eq_true

namespace Harmless

/-- A literal is matched with the list of its characters, which is cheaper than taking it apart. -/
theorem literal {chars : List Char} (harmless : chars.all isHarmless = true) :
    Harmless (String.ofList chars) := by
  simpa [Harmless] using harmless

theorem append {first second : String} (left : Harmless first) (right : Harmless second) :
    Harmless (first ++ second) := by
  intro c member
  rw [String.toList_append] at member
  exact (List.mem_append.1 member).elim (left c) (right c)

theorem join {texts : List String} (each : ∀ text ∈ texts, Harmless text) :
    Harmless (String.join texts) := by
  intro c member
  rw [String.toList_join] at member
  obtain ⟨text, inside, within⟩ := List.mem_flatMap.1 member
  exact each text inside c within

theorem intercalate {separator : String} (between : Harmless separator) {texts : List String}
    (each : ∀ text ∈ texts, Harmless text) : Harmless (separator.intercalate texts) := by
  intro c member
  rcases Text.mem_intercalate member with inside | ⟨text, listed, inside⟩
  · exact between c inside
  · exact each text listed c inside

theorem single {text : String} (harmless : Harmless text) : '\n' ∉ text.toList :=
  fun inside => absurd (harmless _ inside) (by decide)

theorem leads {text : String} (harmless : Harmless text) (depth : Nat) :
    Leads text.toList depth depth :=
  leads_of_harmless harmless depth

theorem conditional {text : String} (harmless : Harmless text) :
    conditional? text.toList = none :=
  conditional_of_no_hash fun inside => absurd (harmless _ inside) (by decide)

end Harmless

section Names

theorem harmless_of_name_part {c : Char} (part : Text.isNamePart c = true) :
    isHarmless c = true := by
  rw [is_harmless_iff]
  refine ⟨?_, ?_, ?_, ?_, ?_, ?_, ?_⟩
  all_goals
    rintro rfl
    exact absurd part (by decide)

theorem harmless_of_parts {text : List Char} (parts : ∀ c ∈ text, Text.isNamePart c = true) :
    Harmless (String.ofList text) := by
  intro c member
  rw [String.toList_ofList] at member
  exact harmless_of_name_part (parts c member)

theorem harmless_of_identifier {name : String} (identifier : Text.isIdentifier name = true) :
    Harmless name :=
  fun c member => harmless_of_name_part (Text.parts_of_identifier identifier c member)

theorem harmless_of_digit {digit : Nat} (small : digit < 16) :
    isHarmless (Nat.digitChar digit) = true ∧ isHarmless (Nat.digitChar digit).toUpper = true := by
  revert digit
  decide

theorem harmless_number (n : Nat) : Harmless (toString n) := by
  intro c member
  have digits : (toString n).toList = Nat.toDigits 10 n := by simp
  rw [digits] at member
  obtain ⟨digit, small, rfl⟩ := Text.to_digits_subset (by decide) n c member
  exact (harmless_of_digit (by omega)).1

theorem harmless_hex (n : Nat) : Harmless (Text.upperHexDigits n) := by
  intro c member
  simp only [Text.upperHexDigits, String.toList_ofList, List.mem_map] at member
  obtain ⟨c, member, rfl⟩ := member
  obtain ⟨digit, small, rfl⟩ := Text.to_digits_subset (by decide) n c member
  exact (harmless_of_digit small).2

theorem harmless_decimal (value : Int) : Harmless (Text.decimal value) := by
  cases value with
  | ofNat n => exact harmless_number n
  | negSucc n => exact .append (.literal rfl) (harmless_number (n + 1))

structure ConfigNames (config : Config) : Prop where
  path : ∀ segment ∈ config.namespacePath, Harmless segment
  runtime : Harmless config.runtimeNamespace
  start : Harmless config.macroPrefix
  guard : Harmless config.includeGuardMacro

section ConfigNames

variable {config : Config}

theorem ConfigNames.nodiscard (names : ConfigNames config) : Harmless config.nodiscard :=
  names.start.append (.literal rfl)

theorem ConfigNames.assertion (names : ConfigNames config) : Harmless config.assertion :=
  names.start.append (.literal rfl)

theorem ConfigNames.qualified (names : ConfigNames config) {name : String} (own : Harmless name) :
    Harmless (config.qualified name) := by
  have segments : Harmless (String.join (config.namespacePath.map (· ++ "::"))) := by
    apply Harmless.join
    intro text member
    obtain ⟨segment, inside, rfl⟩ := List.mem_map.1 member
    exact (names.path segment inside).append (.literal rfl)
  exact .append (.append (.literal rfl) segments) own

end ConfigNames

theorem config_names_of_check {config : Config} (checked : config.check = .ok ()) :
    ConfigNames config := by
  have names := Config.given_names_of_check checked
  refine ⟨fun segment member => harmless_of_identifier (names.path segment member),
    harmless_of_identifier names.runtime, ?_, ?_⟩
  · exact harmless_of_parts (Text.parts_of_upper (Text.parts_of_identifier names.runtime))
  · exact harmless_of_identifier names.guard_named

end Names

end EnumHeader.Cpp.Nesting

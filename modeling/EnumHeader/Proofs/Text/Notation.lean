import EnumHeader.Proofs.Text.Numeral
import Mathlib.Data.List.Forall2
import Mathlib.Data.Nat.Digits.Defs
import Mathlib.Tactic.SplitIfs

/-!
# The notation of values

Which texts are numerals, by the parts that they consist of: a sign, the mark of a radix and digits
of that radix. Reading a value takes exactly the numerals of the values that fit, blanks around them
and separators inside them aside. So a value is read back from each of its renderings, in every
radix and with separators wherever its digits leave room for them.
-/

namespace EnumHeader.Text

set_option autoImplicit false

def EitherCase (c lower : Char) : Prop :=
  c = lower ∨ c = lower.toUpper

instance (c lower : Char) : Decidable (EitherCase c lower) :=
  inferInstanceAs (Decidable (_ ∨ _))

def Spells (radix : Nat) (c : Char) (digit : Nat) : Prop :=
  digit < radix ∧ EitherCase c (Nat.digitChar digit)

/-- The characters are digits of the radix, at least one, and denote the number. -/
def Spelling (radix : Nat) (characters : List Char) (n : Nat) : Prop :=
  ∃ digits, List.Forall₂ (Spells radix) characters digits ∧ digits ≠ [] ∧
    Nat.ofDigits radix digits.reverse = n

inductive RadixMark : List Char → Nat → Prop where
  | decimal : RadixMark [] 10
  | hexadecimal {mark : Char} (letter : EitherCase mark 'x') : RadixMark ['0', mark] 16
  | binary {mark : Char} (letter : EitherCase mark 'b') : RadixMark ['0', mark] 2
  | octal {mark : Char} (letter : EitherCase mark 'o') : RadixMark ['0', mark] 8

/-- The sign of a numeral, with what its magnitude is multiplied by. -/
inductive Sign : List Char → Int → Prop where
  | none : Sign [] 1
  | plus : Sign ['+'] 1
  | minus : Sign ['-'] (-1)

inductive IsNumeral : List Char → Int → Prop where
  | parts {sign mark characters : List Char} {factor : Int} {radix magnitude : Nat}
      (signed : Sign sign factor) (marked : RadixMark mark radix)
      (spelled : Spelling radix characters magnitude) :
      IsNumeral (sign ++ (mark ++ characters)) (factor * magnitude)

def withoutSeparators (text : List Char) : List Char :=
  text.filter (· ≠ '_')

section Digits

variable {radix : Nat}

theorem RadixMark.radix_le {mark : List Char} (marked : RadixMark mark radix) :
    1 < radix ∧ radix ≤ 16 := by
  cases marked <;> omega

theorem digit_char_code {digit : Nat} (small : digit < 16) :
    (Nat.digitChar digit).toNat = (if digit < 10 then 48 else 87) + digit ∧
      (Nat.digitChar digit).toUpper.toNat = (if digit < 10 then 48 else 55) + digit := by
  have all : ∀ digit < 16,
      (Nat.digitChar digit).toNat = (if digit < 10 then 48 else 87) + digit ∧
        (Nat.digitChar digit).toUpper.toNat = (if digit < 10 then 48 else 55) + digit := by decide
  exact all digit small

theorem code_between (low high : Char) {c : Char} (inside : low ≤ c ∧ c ≤ high) :
    low.toNat ≤ c.toNat ∧ c.toNat ≤ high.toNat := by
  simp only [Char.le_def, UInt32.le_iff_toNat_le] at inside
  exact inside

theorem either_case_of_digit_value {c : Char} {digit : Nat} (small : digit < 16)
    (found : digitValue? c = some digit) : EitherCase c (Nat.digitChar digit) := by
  obtain ⟨lower, upper⟩ := digit_char_code small
  unfold digitValue? at found
  split_ifs at found with decimal letter capital
  · have bounds : 48 ≤ c.toNat ∧ c.toNat ≤ 57 := code_between '0' '9' (by
        simpa [Char.isDigit, Char.le_def] using decimal)
    have value : c.toNat - 48 = digit := Option.some.inj found
    exact .inl (Char.toNat_inj.1 (by rw [lower, if_pos (by omega)]; omega))
  · have bounds : 97 ≤ c.toNat ∧ c.toNat ≤ 122 := code_between 'a' 'z' (by simpa using letter)
    have value : c.toNat - 97 + 10 = digit := Option.some.inj found
    exact .inl (Char.toNat_inj.1 (by rw [lower, if_neg (by omega)]; omega))
  · have bounds : 65 ≤ c.toNat ∧ c.toNat ≤ 90 := code_between 'A' 'Z' (by simpa using capital)
    have value : c.toNat - 65 + 10 = digit := Option.some.inj found
    exact .inr (Char.toNat_inj.1 (by rw [upper, if_neg (by omega)]; omega))

theorem digit_value_of_either_case {c : Char} {digit : Nat} (small : digit < 16)
    (either : EitherCase c (Nat.digitChar digit)) : digitValue? c = some digit := by
  have all : ∀ digit < 16, digitValue? (Nat.digitChar digit) = some digit ∧
      digitValue? (Nat.digitChar digit).toUpper = some digit := by decide
  rcases either with rfl | rfl
  · exact (all digit small).1
  · exact (all digit small).2

theorem radix_digit_eq_some_iff (narrow : radix ≤ 16) (c : Char) (digit : Nat) :
    radixDigit? radix c = some digit ↔ Spells radix c digit := by
  have unfolded : radixDigit? radix c = some digit ↔
      digitValue? c = some digit ∧ digit < radix := by
    cases found : digitValue? c with
    | none => simp [radixDigit?, found]
    | some value =>
        simp only [radixDigit?, found, Option.bind_eq_bind, Option.bind_some,
          Option.ite_none_right_eq_some, Option.some.injEq]
        constructor
        · rintro ⟨small, rfl⟩
          exact ⟨rfl, small⟩
        · rintro ⟨rfl, small⟩
          exact ⟨small, rfl⟩
  rw [unfolded]
  constructor
  · rintro ⟨found, small⟩
    exact ⟨small, either_case_of_digit_value (by omega) found⟩
  · rintro ⟨small, either⟩
    exact ⟨digit_value_of_either_case (by omega) either, small⟩

theorem read_on_eq_some_iff (narrow : radix ≤ 16) (characters : List Char) (total n : Nat) :
    readOn radix total characters = some n ↔
      ∃ digits, List.Forall₂ (Spells radix) characters digits ∧
        Nat.ofDigits radix (digits.reverse ++ [total]) = n := by
  induction characters generalizing total with
  | nil => simp [readOn]
  | cons c rest ih =>
      have step : readOn radix total (c :: rest) =
          (radixDigit? radix c).bind fun digit => readOn radix (total * radix + digit) rest := by
        cases found : radixDigit? radix c <;> simp [readOn, found]
      have carried (digit : Nat) (digits : List Nat) :
          Nat.ofDigits radix ((digit :: digits).reverse ++ [total]) =
            Nat.ofDigits radix (digits.reverse ++ [total * radix + digit]) := by
        have pair : Nat.ofDigits radix [digit, total] = total * radix + digit := by
          rw [Nat.ofDigits_cons, Nat.ofDigits_singleton, Nat.mul_comm, Nat.add_comm]
        rw [List.reverse_cons, List.append_assoc, List.singleton_append, Nat.ofDigits_append,
          Nat.ofDigits_append, pair, Nat.ofDigits_singleton]
      rw [step, Option.bind_eq_some_iff]
      constructor
      · rintro ⟨digit, first, later⟩
        obtain ⟨digits, spelled, value⟩ := (ih _).1 later
        exact ⟨digit :: digits, .cons ((radix_digit_eq_some_iff narrow c digit).1 first) spelled,
          (carried digit digits).trans value⟩
      · rintro ⟨_, spelled, value⟩
        cases spelled with
        | cons first spelled =>
            exact ⟨_, (radix_digit_eq_some_iff narrow c _).2 first,
              (ih _).2 ⟨_, spelled, (carried _ _).symm.trans value⟩⟩

theorem read_digits_eq_some_iff (narrow : radix ≤ 16) (characters : List Char) (n : Nat) :
    readDigits radix characters = some n ↔ Spelling radix characters n := by
  cases characters with
  | nil =>
      constructor
      · nofun
      · rintro ⟨_, nothing, nonempty, -⟩
        cases nothing
        exact absurd rfl nonempty
  | cons c rest =>
      change readOn radix 0 (c :: rest) = some n ↔ _
      rw [read_on_eq_some_iff narrow]
      simp only [Nat.ofDigits_append_zero, Spelling]
      refine exists_congr fun digits => and_congr_right fun spelled => ?_
      cases spelled with
      | cons first later => simp

end Digits

section Reading

theorem read_digits_of_mark {mark : Char} (letter : mark ∈ ['x', 'X', 'b', 'B', 'o', 'O'])
    (rest : List Char) : readDigits 10 ('0' :: mark :: rest) = none := by
  simp only [List.mem_cons, List.not_mem_nil, or_false] at letter
  rcases letter with rfl | rfl | rfl | rfl | rfl | rfl <;> rfl

theorem read_magnitude_of_mark {mark characters : List Char} {radix : Nat}
    (marked : RadixMark mark radix) {n : Nat} (read : readDigits radix characters = some n) :
    readMagnitude (mark ++ characters) = some n := by
  cases marked with
  | hexadecimal letter => rcases letter with rfl | rfl <;> exact read
  | binary letter => rcases letter with rfl | rfl <;> exact read
  | octal letter => rcases letter with rfl | rfl <;> exact read
  | decimal =>
      -- decimal digits do not begin like a mark
      rw [List.nil_append]
      unfold readMagnitude
      split
      iterate 6
        rw [read_digits_of_mark (by decide)] at read
        cases read
      exact read

theorem mark_of_read_magnitude {text : List Char} {n : Nat} (found : readMagnitude text = some n) :
    ∃ mark radix characters, RadixMark mark radix ∧ readDigits radix characters = some n ∧
      text = mark ++ characters := by
  unfold readMagnitude at found
  split at found
  · exact ⟨_, _, _, .hexadecimal (.inl rfl), found, rfl⟩
  · exact ⟨_, _, _, .hexadecimal (.inr rfl), found, rfl⟩
  · exact ⟨_, _, _, .binary (.inl rfl), found, rfl⟩
  · exact ⟨_, _, _, .binary (.inr rfl), found, rfl⟩
  · exact ⟨_, _, _, .octal (.inl rfl), found, rfl⟩
  · exact ⟨_, _, _, .octal (.inr rfl), found, rfl⟩
  · exact ⟨_, _, _, .decimal, found, rfl⟩

theorem read_magnitude_eq_some_iff (text : List Char) (n : Nat) :
    readMagnitude text = some n ↔
      ∃ mark radix characters, RadixMark mark radix ∧ Spelling radix characters n ∧
        text = mark ++ characters := by
  constructor
  · intro found
    obtain ⟨mark, radix, characters, marked, read, same⟩ := mark_of_read_magnitude found
    exact ⟨mark, radix, characters, marked,
      (read_digits_eq_some_iff marked.radix_le.2 characters n).1 read, same⟩
  · rintro ⟨mark, radix, characters, marked, spelled, rfl⟩
    exact read_magnitude_of_mark marked
      ((read_digits_eq_some_iff marked.radix_le.2 characters n).2 spelled)

theorem read_magnitude_of_sign {sign : Char} (signed : sign ∈ ['-', '+']) (rest : List Char) :
    readMagnitude (sign :: rest) = none := by
  simp only [List.mem_cons, List.not_mem_nil, or_false] at signed
  rcases signed with rfl | rfl <;> rfl

theorem read_signed_of_sign {sign text : List Char} {factor : Int} (signed : Sign sign factor)
    {magnitude : Nat} (read : readMagnitude text = some magnitude) :
    readSigned (sign ++ text) = some (factor * magnitude) := by
  cases signed with
  | minus => simp [readSigned, read]
  | plus => simp [readSigned, read]
  | none =>
      -- no magnitude begins with a sign
      rw [List.nil_append]
      unfold readSigned
      split
      iterate 2
        rw [read_magnitude_of_sign (by decide)] at read
        cases read
      simp [read]

theorem sign_of_read_signed {text : List Char} {value : Int}
    (found : readSigned text = some value) :
    ∃ sign factor rest magnitude, Sign sign factor ∧ readMagnitude rest = some magnitude ∧
      text = sign ++ rest ∧ factor * magnitude = value := by
  unfold readSigned at found
  split at found
  next rest =>
    obtain ⟨magnitude, read, rfl⟩ : ∃ magnitude, readMagnitude rest = some magnitude ∧
        -(magnitude : Int) = value := by simpa [Option.bind_eq_some_iff] using found
    exact ⟨_, _, rest, magnitude, .minus, read, rfl, Int.neg_one_mul _⟩
  next rest =>
    obtain ⟨magnitude, read, rfl⟩ : ∃ magnitude, readMagnitude rest = some magnitude ∧
        (magnitude : Int) = value := by simpa using found
    exact ⟨_, _, rest, magnitude, .plus, read, rfl, Int.one_mul _⟩
  next =>
    obtain ⟨magnitude, read, rfl⟩ : ∃ magnitude, readMagnitude text = some magnitude ∧
        (magnitude : Int) = value := by simpa using found
    exact ⟨_, _, text, magnitude, .none, read, rfl, Int.one_mul _⟩

theorem read_signed_eq_some_iff (text : List Char) (value : Int) :
    readSigned text = some value ↔ IsNumeral text value := by
  constructor
  · intro found
    obtain ⟨sign, factor, rest, magnitude, signed, read, rfl, rfl⟩ := sign_of_read_signed found
    obtain ⟨mark, radix, characters, marked, spelled, rfl⟩ :=
      (read_magnitude_eq_some_iff rest magnitude).1 read
    exact .parts signed marked spelled
  · rintro ⟨signed, marked, spelled⟩
    exact read_signed_of_sign signed
      ((read_magnitude_eq_some_iff _ _).2 ⟨_, _, _, marked, spelled, rfl⟩)

theorem read_value_eq_some_iff (text : String) (value : Int) :
    readValue text = some value ↔
      IsNumeral (withoutSeparators (trim text.toList)) value ∧ Integer.Fits value := by
  rw [← read_signed_eq_some_iff]
  unfold readValue withoutSeparators
  cases found : readSigned ((trim text.toList).filter (· ≠ '_')) with
  | none => simp
  | some read =>
      simp only [Option.bind_eq_bind, Option.bind_some, Option.ite_none_right_eq_some,
        Option.some.injEq]
      constructor
      · rintro ⟨fits, rfl⟩
        exact ⟨rfl, fits⟩
      · rintro ⟨rfl, fits⟩
        exact ⟨fits, rfl⟩

end Reading

section Renderings

/-- The ways to write a value: a sign that agrees with it, the mark of a radix, and its digits in
that radix, each in either case, with zeros in front of them and separators among them. -/
inductive Renders (value : Int) : List Char → Prop where
  | parts {sign mark digits : List Char} {factor : Int} {radix : Nat} (zeros : Nat)
      (signed : Sign sign factor) (agrees : factor * value.natAbs = value)
      (marked : RadixMark mark radix)
      (spelled : List.Forall₂ EitherCase (withoutSeparators digits)
        (List.replicate zeros '0' ++ Nat.toDigits radix value.natAbs)) :
      Renders value (sign ++ (mark ++ digits))

variable {radix : Nat}

theorem spelling_of_to_digits (large : 1 < radix) (narrow : radix ≤ 16) (n : Nat) :
    Spelling radix (Nat.toDigits radix n) n := by
  have digits : DigitsOf radix fun digit => id (Nat.digitChar digit) := fun digit small =>
    (radix_digit_eq_some_iff narrow _ digit).2 ⟨small, .inl rfl⟩
  have read := read_digits_to_digits large id digits n
  rw [List.map_id] at read
  exact (read_digits_eq_some_iff narrow _ n).1 read

theorem Spelling.zeros (positive : 0 < radix) {characters : List Char} {n : Nat}
    (spelling : Spelling radix characters n) (zeros : Nat) :
    Spelling radix (List.replicate zeros '0' ++ characters) n := by
  induction zeros with
  | zero => exact spelling
  | succ zeros ih =>
      obtain ⟨digits, spelled, -, value⟩ := ih
      exact ⟨0 :: digits, .cons ⟨positive, .inl rfl⟩ spelled, List.cons_ne_nil _ _,
        (Nat.ofDigits_reverse_zero_cons digits).trans value⟩

theorem EitherCase.spells (narrow : radix ≤ 16) {c lower : Char} (either : EitherCase c lower)
    {digit : Nat} (spells : Spells radix lower digit) : Spells radix c digit := by
  have capital : ∀ digit < 16,
      (Nat.digitChar digit).toUpper.toUpper = (Nat.digitChar digit).toUpper := by decide
  obtain ⟨small, letter⟩ := spells
  refine ⟨small, ?_⟩
  rcases either with rfl | rfl
  · exact letter
  · rcases letter with rfl | rfl
    · exact .inr rfl
    · exact .inr (capital digit (by omega))

theorem Spelling.either_case (narrow : radix ≤ 16) {characters lower : List Char}
    (either : List.Forall₂ EitherCase characters lower) {n : Nat}
    (spelling : Spelling radix lower n) : Spelling radix characters n := by
  obtain ⟨digits, spelled, nonempty, value⟩ := spelling
  refine ⟨digits, ?_, nonempty, value⟩
  clear nonempty value
  induction either generalizing digits with
  | nil =>
      cases spelled
      exact .nil
  | cons first _ ih =>
      cases spelled with
      | cons spells spelled => exact .cons (first.spells narrow spells) (ih _ spelled)

theorem Spells.not_blank (narrow : radix ≤ 16) {c : Char} {digit : Nat}
    (spells : Spells radix c digit) : isBlank c = false := by
  have all : ∀ digit < 16, isBlank (Nat.digitChar digit) = false ∧
      isBlank (Nat.digitChar digit).toUpper = false := by decide
  obtain ⟨small, rfl | rfl⟩ := spells
  · exact (all digit (by omega)).1
  · exact (all digit (by omega)).2

theorem Spelling.not_blank (narrow : radix ≤ 16) {characters : List Char} {n : Nat}
    (spelling : Spelling radix characters n) : ∀ c ∈ characters, isBlank c = false := by
  obtain ⟨digits, spelled, -⟩ := spelling
  induction spelled with
  | nil => nofun
  | cons spells _ ih => exact List.forall_mem_cons.2 ⟨spells.not_blank narrow, ih⟩

theorem solid_of_all {text : List Char}
    (all : (text.all fun c => !isBlank c && c != '_') = true) :
    ∀ c ∈ text, isBlank c = false ∧ c ≠ '_' := by
  simpa using all

theorem Sign.solid {sign : List Char} {factor : Int} (signed : Sign sign factor) :
    ∀ c ∈ sign, isBlank c = false ∧ c ≠ '_' := by
  apply solid_of_all
  cases signed <;> decide

theorem RadixMark.solid {mark : List Char} (marked : RadixMark mark radix) :
    ∀ c ∈ mark, isBlank c = false ∧ c ≠ '_' := by
  apply solid_of_all
  cases marked with
  | decimal => decide
  | hexadecimal letter | binary letter | octal letter => rcases letter with rfl | rfl <;> decide

theorem trim_of_solid {text : List Char} (solid : ∀ c ∈ text, isBlank c = false) :
    trim text = text := by
  have kept {side : List Char} (solid : ∀ c ∈ side, isBlank c = false) :
      side.dropWhile isBlank = side := by
    cases side with
    | nil => rfl
    | cons c rest => exact List.dropWhile_cons_of_neg (by simp [solid c])
  have reversed : ∀ c ∈ text.reverse, isBlank c = false := by simpa using solid
  rw [trim, trimLeft, kept solid, trimRight, kept reversed, List.reverse_reverse]

theorem without_separators_of_solid {text : List Char}
    (solid : ∀ c ∈ text, isBlank c = false ∧ c ≠ '_') : withoutSeparators text = text := by
  unfold withoutSeparators
  rw [List.filter_eq_self]
  simpa using fun c member => (solid c member).2

/-- Every rendering is a numeral of the value, with nothing to trim. -/
theorem Renders.is_numeral {value : Int} {text : List Char} (renders : Renders value text) :
    trim text = text ∧ IsNumeral (withoutSeparators text) value := by
  obtain @⟨sign, mark, digits, factor, radix, zeros, signed, agrees, marked, spelled⟩ := renders
  obtain ⟨large, narrow⟩ := marked.radix_le
  have spelling : Spelling radix (withoutSeparators digits) value.natAbs :=
    ((spelling_of_to_digits large narrow _).zeros (by omega) zeros).either_case narrow spelled
  constructor
  · refine trim_of_solid fun c member => ?_
    simp only [List.mem_append] at member
    rcases member with member | member | member
    · exact (signed.solid c member).1
    · exact (marked.solid c member).1
    · by_cases separator : c = '_'
      · subst separator
        decide
      · exact spelling.not_blank narrow c (List.mem_filter.2 ⟨member, by simpa using separator⟩)
  · have numeral := IsNumeral.parts signed marked spelling
    rw [agrees] at numeral
    have parts : withoutSeparators (sign ++ (mark ++ digits)) =
        sign ++ (mark ++ withoutSeparators digits) := by
      have signKept := without_separators_of_solid signed.solid
      have markKept := without_separators_of_solid marked.solid
      unfold withoutSeparators at signKept markKept ⊢
      rw [List.filter_append, List.filter_append, signKept, markKept]
    rwa [parts]

end Renderings

/-- Reading takes the numerals of the values that fit, and every rendering of such a value. -/
theorem numerals_read_exactly :
    (∀ (text : String) (value : Int), readValue text = some value ↔
      IsNumeral (withoutSeparators (trim text.toList)) value ∧ Integer.Fits value) ∧
      ∀ (value : Int) (text : List Char), Integer.Fits value → Renders value text →
        readValue (String.ofList text) = some value := by
  refine ⟨read_value_eq_some_iff, fun value text fits renders => ?_⟩
  obtain ⟨trimmed, numeral⟩ := renders.is_numeral
  rw [read_value_eq_some_iff, String.toList_ofList, trimmed]
  exact ⟨numeral, fits⟩

def leastDigits : List Char :=
  "_8000_0000_0000__0000_0000_0000_0000_0000_".toList

theorem least_value_read_back :
    Integer.Fits Integer.least ∧
      Renders Integer.least (['-'] ++ (['0', 'X'] ++ leastDigits)) ∧
        readValue (String.ofList (['-'] ++ (['0', 'X'] ++ leastDigits))) =
          some Integer.least := by
  have fits : Integer.Fits Integer.least := by decide
  have renders : Renders Integer.least (['-'] ++ (['0', 'X'] ++ leastDigits)) :=
    .parts 0 .minus (by decide) (.hexadecimal (.inr rfl)) (by decide +kernel)
  exact ⟨fits, renders, numerals_read_exactly.2 Integer.least _ fits renders⟩

end EnumHeader.Text

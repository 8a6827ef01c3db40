import EnumHeader.Proofs.Document.Json.Numeral
import EnumHeader.Proofs.Document.Json.Wording

/-!
# Reading values

Every text that writes a value is read as this value, however it is spaced and escaped. Twice the
length of the text bounds the nesting of the readers.
-/

namespace EnumHeader.Document.Json

set_option autoImplicit false

section Starts

/-- The first character of a value, which is no space and closes nothing. -/
def Starts (text : List Char) : Prop :=
  ∃ first more, text = first :: more ∧ isSpace first = false ∧ first ≠ ']'

theorem starts_of_writes {node : Node} {text : List Char} (writes : Writes node text) :
    Starts text := by
  have decimal (n : Nat) : Starts (Nat.toDigits 10 n) := by
    obtain ⟨first, more, text⟩ := List.exists_cons_of_ne_nil (Nat.toDigits_ne_nil (b := 10) (n := n))
    have digit := digits_are_digits n first (by simp [text])
    refine ⟨first, more, text, ?_, ?_⟩
    · by_contra space
      simp only [isSpace, Bool.not_eq_false, Bool.or_eq_true, beq_iff_eq] at space
      rcases space with ((rfl | rfl) | rfl) | rfl <;> exact absurd digit (by decide)
    · rintro rfl
      exact absurd digit (by decide)
  cases writes with
  | @integer value fits =>
      cases value with
      | ofNat n => simpa [Text.decimal] using decimal n
      | negSucc n => exact ⟨'-', Nat.toDigits 10 (n + 1), by simp [Text.decimal], by decide, by decide⟩
  | _ => exact ⟨_, _, rfl, by decide, by decide⟩

variable {before text rest : List Char}

theorem skip_spaces (spaces : IsSpaces before) (rest : List Char) :
    skipSpace (before ++ rest) = skipSpace rest :=
  List.dropWhile_append_of_pos spaces

theorem skip_nothing {c : Char} (visible : isSpace c = false) :
    skipSpace (c :: rest) = c :: rest := by
  simp [skipSpace, visible]

theorem Starts.skip (starts : Starts text) (spaces : IsSpaces before) (rest : List Char) :
    skipSpace (before ++ (text ++ rest)) = text ++ rest := by
  obtain ⟨first, more, rfl, visible, -⟩ := starts
  rw [skip_spaces spaces]
  exact skip_nothing visible

theorem ends_of_spaces (spaces : IsSpaces before) (ends : Ends rest) : Ends (before ++ rest) := by
  cases before with
  | nil => exact ends
  | cons c more =>
      intro first head
      obtain rfl : c = first := Option.some.inj head
      exact .inl (spaces c List.mem_cons_self)

end Starts

section Values

attribute [local simp] value elementsOf fieldsOf

variable {bound : Nat} {text rest : List Char}

theorem value_of_digit {first : Char} {more : List Char} (digit : first.isDigit = true)
    (skipped : skipSpace text = first :: more) :
    value (bound + 1) text = unsignedNumber false (first :: more) := by
  rw [value, skipped]
  split <;> simp_all

theorem value_of_integer {integer : Int} (fits : IntegerFits integer) (ends : Ends rest)
    (skipped : skipSpace text = (Text.decimal integer).toList ++ rest) :
    value (bound + 1) text = some (.integer integer, rest) := by
  cases integer with
  | ofNat n =>
      have chars : (Text.decimal (Int.ofNat n)).toList = Nat.toDigits 10 n := by
        simp [Text.decimal]
      obtain ⟨first, more, digits⟩ :=
        List.exists_cons_of_ne_nil (Nat.toDigits_ne_nil (b := 10) (n := n))
      have digit := digits_are_digits n first (by simp [digits])
      have read := number_of_digits ends false (n := n) rfl fits nofun
      rw [digits] at read
      rw [chars, digits] at skipped
      exact (value_of_digit digit skipped).trans read
  | negSucc n =>
      have chars : (Text.decimal (Int.negSucc n)).toList = '-' :: Nat.toDigits 10 (n + 1) := by
        simp [Text.decimal]
      rw [chars] at skipped
      rw [value, skipped]
      exact number_of_digits ends true (by simp [Int.negSucc_eq]) fits (by simp)

theorem value_of_string {content : String} {written : List Char}
    (chars : WritesChars content.toList written)
    (skipped : skipSpace text = '"' :: (written ++ '"' :: rest)) :
    value (bound + 1) text = some (.string (some content), rest) := by
  simp [skipped, wording_of_chars chars]

theorem value_of_no_elements {inside : List Char} (skipped : skipSpace text = '[' :: inside)
    (closed : skipSpace inside = ']' :: rest) :
    value (bound + 1) text = some (.array [], rest) := by
  simp [skipped, closed]

theorem value_of_no_fields {inside : List Char} (skipped : skipSpace text = '\x7b' :: inside)
    (closed : skipSpace inside = '\x7d' :: rest) :
    value (bound + 1) text = some (.table [], rest) := by
  simp [skipped, closed]

theorem value_of_elements {elements : List Node} {inside : List Char}
    (starts : ∃ first more, skipSpace inside = first :: more ∧ first ≠ ']')
    (read : elementsOf bound inside = some (elements, rest))
    (skipped : skipSpace text = '[' :: inside) :
    value (bound + 1) text = some (.array elements, rest) := by
  obtain ⟨first, more, opened, other⟩ := starts
  rw [value, skipped]
  simp only [opened, read]
  split <;> simp_all

theorem value_of_fields {fields : List (Wording × Node)} {inside : List Char}
    (starts : ∃ more, skipSpace inside = '"' :: more)
    (read : fieldsOf bound inside = some (fields, rest))
    (skipped : skipSpace text = '\x7b' :: inside) :
    value (bound + 1) text = some (.table fields, rest) := by
  obtain ⟨more, opened⟩ := starts
  simp [skipped, opened, read]

theorem elements_last {node : Node} {after : List Char} (first : value bound text = some (node, after))
    (closed : skipSpace after = ']' :: rest) :
    elementsOf (bound + 1) text = some ([node], rest) := by
  simp [first, closed]

theorem elements_more {node : Node} {nodes : List Node} {after others : List Char}
    (first : value bound text = some (node, after)) (parted : skipSpace after = ',' :: others)
    (later : elementsOf bound others = some (nodes, rest)) :
    elementsOf (bound + 1) text = some (node :: nodes, rest) := by
  simp [first, parted, later]

section Fields

variable {name : String} {node : Node} {key afterKey content after : List Char}
  (opened : skipSpace text = '"' :: (key ++ '"' :: afterKey)) (named : WritesChars name.toList key)
  (coloned : skipSpace afterKey = ':' :: content) (first : value bound content = some (node, after))

include opened named coloned first

theorem fields_last (closed : skipSpace after = '\x7d' :: rest) :
    fieldsOf (bound + 1) text = some ([(some name, node)], rest) := by
  simp [opened, wording_of_chars named, coloned, first, closed]

theorem fields_more {fields : List (Wording × Node)} {others : List Char}
    (parted : skipSpace after = ',' :: others)
    (later : fieldsOf bound others = some (fields, rest)) :
    fieldsOf (bound + 1) text = some ((some name, node) :: fields, rest) := by
  simp [opened, wording_of_chars named, coloned, first, parted, later]

end Fields

end Values

section Reading

/-- What each of the readers gives within a bound. -/
structure ReadsWithin (bound : Nat) : Prop where
  value : ∀ {node written}, Writes node written → 2 * written.length ≤ bound →
    ∀ {before rest}, IsSpaces before → Ends rest →
      Json.value bound (before ++ (written ++ rest)) = some (node, rest)
  elements : ∀ {nodes written}, Separated WritesElement nodes written →
    2 * written.length + 1 ≤ bound →
      ∀ rest, elementsOf bound (written ++ ']' :: rest) = some (nodes, rest)
  fields : ∀ {fields written}, Separated WritesField fields written →
    2 * written.length + 1 ≤ bound →
      ∀ rest, fieldsOf bound (written ++ '\x7d' :: rest) = some (fields, rest)

theorem ends_of_sign {c : Char} (sign : c ∈ [',', ']', '\x7d']) (rest : List Char) :
    Ends (c :: rest) := by
  intro first head
  obtain rfl : c = first := Option.some.inj head
  exact .inr sign

theorem elements_start {nodes : List Node} {written : List Char}
    (writes : Separated WritesElement nodes written) (rest : List Char) :
    ∃ first more, skipSpace (written ++ rest) = first :: more ∧ first ≠ ']' := by
  have element {node : Node} {text : List Char} (writes : WritesElement node text)
      (rest : List Char) : ∃ first more, skipSpace (text ++ rest) = first :: more ∧ first ≠ ']' := by
    obtain ⟨spaceBefore, content, -⟩ := writes
    obtain ⟨first, more, rfl, visible, other⟩ := starts_of_writes content
    rw [List.append_assoc, skip_spaces spaceBefore]
    exact ⟨first, _, skip_nothing visible, other⟩
  cases writes with
  | last only => exact element only rest
  | more first others =>
      rw [List.append_assoc]
      exact element first _

theorem fields_start {fields : List (Wording × Node)} {written : List Char}
    (writes : Separated WritesField fields written) (rest : List Char) :
    ∃ more, skipSpace (written ++ rest) = '"' :: more := by
  have field {entry : Wording × Node} {text : List Char} (writes : WritesField entry text)
      (rest : List Char) : ∃ more, skipSpace (text ++ rest) = '"' :: more := by
    obtain ⟨spaceBefore, named, -, -⟩ := writes
    rw [List.append_assoc, skip_spaces spaceBefore]
    exact ⟨_, skip_nothing (by decide)⟩
  cases writes with
  | last only => exact field only rest
  | more first others =>
      rw [List.append_assoc]
      exact field first _

section Within

variable {bound : Nat} (within : ReadsWithin bound)

include within

theorem value_within {node : Node} {written : List Char} (writes : Writes node written)
    (short : 2 * written.length ≤ bound + 1) {before rest : List Char} (spaces : IsSpaces before)
    (ends : Ends rest) :
    value (bound + 1) (before ++ (written ++ rest)) = some (node, rest) := by
  have skipped := (starts_of_writes writes).skip spaces rest
  cases writes with
  | null | yes | no =>
      rw [value, skipped]
      rfl
  | integer fits => exact value_of_integer fits ends skipped
  | string chars => exact value_of_string chars (skipped.trans (by simp))
  | emptyArray inside =>
      exact value_of_no_elements (skipped.trans (by simp))
        ((skip_spaces inside _).trans (skip_nothing (by decide)))
  | array inside =>
      have read := within.elements inside (by simp at short; omega) rest
      exact value_of_elements (elements_start inside _) read (skipped.trans (by simp))
  | emptyTable inside =>
      exact value_of_no_fields (skipped.trans (by simp))
        ((skip_spaces inside _).trans (skip_nothing (by decide)))
  | table inside =>
      have read := within.fields inside (by simp at short; omega) rest
      exact value_of_fields (fields_start inside _) read (skipped.trans (by simp))

/-- The space after a value is left for the reader around it. -/
theorem element_within {node : Node} {written : List Char} (writes : WritesElement node written)
    (short : 2 * written.length ≤ bound) (sign : Char) (ending : sign ∈ [',', ']', '\x7d'])
    (rest : List Char) :
    ∃ after, value bound (written ++ sign :: rest) = some (node, after) ∧
      skipSpace after = sign :: rest := by
  obtain @⟨_, before, content, after, spaceBefore, writes, spaceAfter⟩ := writes
  have visible : isSpace sign = false := by
    revert ending
    simp only [List.mem_cons, List.not_mem_nil, or_false]
    rintro (rfl | rfl | rfl) <;> decide
  refine ⟨after ++ sign :: rest, ?_, by rw [skip_spaces spaceAfter, skip_nothing visible]⟩
  have read := within.value writes (by simp at short; omega) spaceBefore
    (ends_of_spaces spaceAfter (ends_of_sign ending rest))
  simpa using read

theorem elements_within {nodes : List Node} {written : List Char}
    (writes : Separated WritesElement nodes written) (short : 2 * written.length ≤ bound)
    (rest : List Char) :
    elementsOf (bound + 1) (written ++ ']' :: rest) = some (nodes, rest) := by
  cases writes with
  | last only =>
      obtain ⟨after, first, closed⟩ := element_within within only short ']' (by decide) rest
      exact elements_last first closed
  | @more node nodes text others first later =>
      simp only [List.length_append, List.length_cons] at short
      obtain ⟨after, first, parted⟩ := element_within within first (by omega) ',' (by decide)
        (others ++ ']' :: rest)
      rw [List.append_assoc]
      exact elements_more first parted (within.elements later (by omega) rest)

theorem fields_within {fields : List (Wording × Node)} {written : List Char}
    (writes : Separated WritesField fields written) (short : 2 * written.length ≤ bound)
    (rest : List Char) :
    fieldsOf (bound + 1) (written ++ '\x7d' :: rest) = some (fields, rest) := by
  have opened {before : List Char} (spaceBefore : IsSpaces before) (key left : List Char) :
      skipSpace (before ++ '"' :: (key ++ '"' :: left)) = '"' :: (key ++ '"' :: left) := by
    rw [skip_spaces spaceBefore, skip_nothing (by decide)]
  have coloned {after : List Char} (spaceAfter : IsSpaces after) (left : List Char) :
      skipSpace (after ++ ':' :: left) = ':' :: left := by
    rw [skip_spaces spaceAfter, skip_nothing (by decide)]
  cases writes with
  | last only =>
      obtain ⟨spaceBefore, named, spaceAfter, value⟩ := only
      simp only [List.length_append, List.length_cons] at short
      obtain ⟨after, first, closed⟩ := element_within within value (by omega) '\x7d' (by decide) rest
      simp only [List.append_assoc, List.cons_append]
      exact fields_last (opened spaceBefore _ _) named (coloned spaceAfter _) first closed
  | @more entry fields text others first later =>
      obtain ⟨spaceBefore, named, spaceAfter, value⟩ := first
      simp only [List.length_append, List.length_cons] at short
      obtain ⟨after, first, parted⟩ := element_within within value (by omega) ',' (by decide)
        (others ++ '\x7d' :: rest)
      simp only [List.append_assoc, List.cons_append]
      exact fields_more (opened spaceBefore _ _) named (coloned spaceAfter _) first parted
        (within.fields later (by omega) rest)

end Within

theorem reads_within (bound : Nat) : ReadsWithin bound := by
  -- by induction on the bound, which every reader lowers by one for the readers inside
  induction bound with
  | zero =>
      refine ⟨fun writes short => ?_, fun _ short => ?_, fun _ short => ?_⟩
      · obtain ⟨first, more, rfl, -⟩ := starts_of_writes writes
        simp at short
      · omega
      · omega
  | succ bound ih =>
      exact ⟨fun writes short => value_within ih writes short,
        fun writes short => elements_within ih writes (by omega),
        fun writes short => fields_within ih writes (by omega)⟩

end Reading

theorem read_of_writes {node : Node} {text : List Char} (writes : WritesElement node text) :
    read text = some node := by
  obtain @⟨_, before, written, after, spaceBefore, writes, spaceAfter⟩ := writes
  have nothing : Ends [] := nofun
  have found := (reads_within (2 * (before ++ (written ++ after)).length + 2)).value writes
    (by simp; omega) spaceBefore (ends_of_spaces spaceAfter nothing)
  have left : skipSpace (after ++ []) = [] := skip_spaces spaceAfter []
  rw [List.append_nil] at found left
  unfold read
  rw [found]
  simp [left]

end EnumHeader.Document.Json

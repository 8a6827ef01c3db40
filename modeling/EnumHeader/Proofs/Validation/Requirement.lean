import EnumHeader.Proofs.Config.Accepted
import EnumHeader.Proofs.Integer
import EnumHeader.Proofs.Validation.Earliest

/-!
# What validation requires

The requirements on a definition, stated without the rules that check them: `Requirement.Met` says
what has to hold and `Requirement.Reports` which failure tells that it does not. Each rule is then
shown to stay silent exactly on the definitions that meet its requirement and to report exactly its
earliest offence. Values are taken to have at most 128 bits, because nothing else can be given.
-/

namespace EnumHeader

set_option autoImplicit false

def Definition.Fits (definition : Definition) : Prop :=
  ∀ entry ∈ definition.entries, Integer.Fits entry.value

/-- The value is one that integers of this width and signedness have. -/
def SizeType.Represents (sizeType : SizeType) (value : Int) : Prop :=
  if sizeType.signed then -2 ^ (sizeType.bits - 1) ≤ value ∧ value < 2 ^ (sizeType.bits - 1)
  else 0 ≤ value ∧ value < 2 ^ sizeType.bits

/-- The range that validation tests cuts an unsigned type off at the largest entry value, so it
leaves out nothing that an entry can have. -/
theorem SizeType.holds_iff_represents {sizeType : SizeType} {value : Int}
    (width : sizeType.effectiveBits = sizeType.bits) (fits : Integer.Fits value) :
    sizeType.Holds value ↔ sizeType.Represents value := by
  have above := fits.2
  unfold Represents
  simp only [Holds, lowest, highest, width, Integer.int_pow_eq]
  split <;> omega

/-- A type holds every value that integers of its width have, also if it is none of the widths that a
type can have. -/
theorem SizeType.holds_of_represents {sizeType : SizeType} {value : Int} (fits : Integer.Fits value)
    (represented : sizeType.Represents value) : sizeType.Holds value := by
  obtain ⟨above, below⟩ := Integer.fits_iff.1 fits
  unfold Represents at represented
  simp only [Holds, lowest, highest, Integer.greatest, Integer.int_pow_eq]
  by_cases wide : 128 < sizeType.bits
  · have width : sizeType.effectiveBits = 128 := by
      unfold effectiveBits
      omega
    rw [width]
    split_ifs with signed
    · exact ⟨above, by omega⟩
    · rw [if_neg signed] at represented
      omega
  · have width : sizeType.bits ≤ sizeType.effectiveBits := by
      unfold effectiveBits
      omega
    have unsigned : (2 : Int) ^ sizeType.bits ≤ 2 ^ sizeType.effectiveBits :=
      pow_le_pow_right₀ (by omega) width
    have half : (2 : Int) ^ (sizeType.bits - 1) ≤ 2 ^ (sizeType.effectiveBits - 1) :=
      pow_le_pow_right₀ (by omega) (by omega)
    split_ifs at represented ⊢ <;> omega

theorem SizeType.fits_of_holds (sizeType : SizeType) {value : Int} (holds : sizeType.Holds value) :
    Integer.Fits value := by
  have width : sizeType.effectiveBits ≤ 128 := by
    unfold effectiveBits
    omega
  have power : (2 : Int) ^ (sizeType.effectiveBits - 1) ≤ 2 ^ 127 :=
    pow_le_pow_right₀ (by omega) (by omega)
  obtain ⟨above, below⟩ := holds
  simp only [lowest, Integer.int_pow_eq] at above
  simp only [highest, Integer.greatest, Integer.int_pow_eq] at below
  simp only [Integer.Fits, Integer.least, Integer.greatest, Integer.int_pow_eq]
  split at above <;> split at below <;> simp_all only <;> omega

namespace Validation

def SetsOneBit (value : Int) : Prop :=
  ∃! position, (Integer.pattern value).testBit position = true

theorem is_power_of_two_iff_one_bit (n : Nat) :
    n.isPowerOfTwo ↔ ∃! position, n.testBit position = true := by
  constructor
  · rintro ⟨exponent, rfl⟩
    refine ⟨exponent, by simp, ?_⟩
    intro position set
    simpa [Nat.testBit_two_pow, eq_comm] using set
  · rintro ⟨position, set, only⟩
    refine ⟨position, Nat.eq_of_testBit_eq fun other => ?_⟩
    rw [Nat.testBit_two_pow]
    by_cases same : position = other
    · subst other
      simpa using set
    · have clear : n.testBit other ≠ true := fun set' => same (only other set').symm
      simpa [same] using clear

theorem is_single_bit_iff (value : Int) : isSingleBit value = true ↔ SetsOneBit value := by
  unfold isSingleBit SetsOneBit
  rw [← is_power_of_two_iff_one_bit, ← Nat.ne_zero_and_sub_one_eq_zero_iff_isPowerOfTwo]
  simp

inductive Requirement where
  | distinctNames
  | someEntry
  | nonnegativeFlags
  | distinctFlags
  | unsignedFlags
  | registeredStorage
  | representableValues
  | freeNames
  | singleBitFlags
  | existingDefault
  deriving Repr, DecidableEq, Inhabited

namespace Requirement

/-- The order in which broken requirements are reported. -/
def order : List Requirement :=
  [.distinctNames, .someEntry, .nonnegativeFlags, .distinctFlags, .unsignedFlags,
    .registeredStorage, .representableValues, .freeNames, .singleBitFlags, .existingDefault]

theorem mem_order (requirement : Requirement) : requirement ∈ order := by
  cases requirement <;> decide

def Met (config : Config) (definition : Definition) : Requirement → Prop
  | .distinctNames => definition.entryNames.Nodup
  | .someEntry => definition.entries ≠ []
  | .nonnegativeFlags => definition.kind = .flags → ∀ entry ∈ definition.entries, 0 ≤ entry.value
  | .distinctFlags => definition.kind = .flags → definition.values.Nodup
  | .unsignedFlags =>
      definition.kind = .flags →
        ∀ sizeType, config.sizeTypes[definition.sizeIndex]? = some sizeType →
          sizeType.signed = false
  | .registeredStorage => definition.sizeIndex < config.sizeTypes.length
  | .representableValues =>
      ∀ sizeType, config.sizeTypes[definition.sizeIndex]? = some sizeType →
        ∀ entry ∈ definition.entries, sizeType.Represents entry.value
  | .freeNames =>
      ∀ entry ∈ definition.entries, entry.name ≠ definition.name ∧ entry.name ∉ reservedNames
  | .singleBitFlags =>
      definition.kind = .flags → config.singleBitFlags = true →
        ∀ entry ∈ definition.entries, SetsOneBit entry.value
  | .existingDefault =>
      ∀ name, definition.defaultName = some name → name ∈ definition.entryNames

/-- The failure that reports the earliest offence against the requirement. -/
def Reports (config : Config) (definition : Definition) (failure : Failure) : Requirement → Prop
  | .distinctNames =>
      ∃ entry,
        Earliest (fun before other => other.name ∈ before.map Entry.name) definition.entries entry ∧
          Failure.violation (.repeatedEntryName definition.name entry.name) = failure
  | .someEntry =>
      definition.entries = [] ∧ Failure.violation (.noEntries definition.name) = failure
  | .nonnegativeFlags =>
      definition.kind = .flags ∧
        ∃ entry, Earliest (fun _ other => other.value < 0) definition.entries entry ∧
          Failure.violation (.negativeFlag definition.name entry.name entry.value) = failure
  | .distinctFlags =>
      definition.kind = .flags ∧
        ∃ entry first,
          Earliest (fun before other => other.value ∈ before.map Entry.value)
              definition.entries entry ∧
            Earliest (fun _ other => other.value = entry.value) definition.entries first ∧
            Failure.violation
                (.repeatedFlag definition.name entry.name first.name entry.value) = failure
  | .unsignedFlags =>
      definition.kind = .flags ∧
        ∃ sizeType, config.sizeTypes[definition.sizeIndex]? = some sizeType ∧
          sizeType.signed = true ∧
          Failure.unsupported (.signedFlags definition.name sizeType.name) = failure
  | .registeredStorage =>
      config.sizeTypes.length ≤ definition.sizeIndex ∧
        Failure.unsupported
            (.unknownStorage definition.name definition.sizeIndex config.sizeTypes.length) = failure
  | .representableValues =>
      ∃ sizeType entry, config.sizeTypes[definition.sizeIndex]? = some sizeType ∧
        Earliest (fun _ other => ¬sizeType.Represents other.value) definition.entries entry ∧
        Failure.violation (.outOfRange definition.name entry.name entry.value sizeType.name) =
          failure
  | .freeNames =>
      ∃ entry,
        Earliest (fun _ other => other.name = definition.name ∨ other.name ∈ reservedNames)
            definition.entries entry ∧
          Failure.violation (.reservedName definition.name entry.name) = failure
  | .singleBitFlags =>
      definition.kind = .flags ∧ config.singleBitFlags = true ∧
        ∃ entry, Earliest (fun _ other => ¬SetsOneBit other.value) definition.entries entry ∧
          Failure.violation (.notSingleBit definition.name entry.name entry.value) = failure
  | .existingDefault =>
      ∃ name, definition.defaultName = some name ∧ name ∉ definition.entryNames ∧
        Failure.violation (.unknownDefault definition.name name) = failure

def rule : Requirement → Rule
  | .distinctNames => distinctEntryNames
  | .someEntry => Validation.someEntry
  | .nonnegativeFlags => Validation.nonnegativeFlags
  | .distinctFlags => Validation.distinctFlags
  | .unsignedFlags => Validation.unsignedFlags
  | .registeredStorage => Validation.registeredStorage
  | .representableValues => Validation.representableValues
  | .freeNames => Validation.freeNames
  | .singleBitFlags => Validation.singleBitFlags
  | .existingDefault => Validation.existingDefault

theorem order_map_rule : order.map rule = rules :=
  rfl

end Requirement

theorem first_entry_eq_none_iff (definition : Definition) (isFault : Entry → Bool)
    (cause : Entry → Violation) :
    firstEntry definition isFault cause = none ↔
      ∀ entry ∈ definition.entries, isFault entry = false := by
  simp [firstEntry]

theorem first_entry_eq_some_iff (definition : Definition) (isFault : Entry → Bool)
    (cause : Entry → Violation) (failure : Failure) :
    firstEntry definition isFault cause = some failure ↔
      ∃ entry, Earliest (fun _ other => isFault other = true) definition.entries entry ∧
        Failure.violation (cause entry) = failure := by
  simp only [firstEntry, Option.map_eq_some_iff, find_eq_some_iff_earliest]

theorem on_flags_eq_none_iff (rule : Rule) (config : Config) (definition : Definition) :
    onFlags rule config definition = none ↔
      (definition.kind = .flags → rule config definition = none) := by
  unfold onFlags
  cases definition.kind <;> simp

theorem on_flags_eq_some_iff (rule : Rule) (config : Config) (definition : Definition)
    (failure : Failure) :
    onFlags rule config definition = some failure ↔
      definition.kind = .flags ∧ rule config definition = some failure := by
  unfold onFlags
  cases definition.kind <;> simp

variable {config : Config} {definition : Definition}

theorem holds_iff_represents_of_registered (accepted : config.Accepted) (fits : definition.Fits)
    {sizeType : SizeType} (registered : config.sizeTypes[definition.sizeIndex]? = some sizeType)
    {entry : Entry} (member : entry ∈ definition.entries) :
    sizeType.Holds entry.value ↔ sizeType.Represents entry.value :=
  SizeType.holds_iff_represents (accepted.effective_bits (List.mem_of_getElem? registered))
    (fits entry member)

theorem rule_eq_none_iff (accepted : config.Accepted) (fits : definition.Fits)
    (requirement : Requirement) :
    requirement.rule config definition = none ↔ requirement.Met config definition := by
  cases requirement with
  | distinctNames =>
      simp only [Requirement.rule, distinctEntryNames, Option.map_eq_none_iff,
        first_repeated_eq_none_iff_nodup, Requirement.Met]
  | someEntry => simp [Requirement.rule, someEntry, Requirement.Met]
  | nonnegativeFlags =>
      simp [Requirement.rule, nonnegativeFlags, on_flags_eq_none_iff, first_entry_eq_none_iff,
        Requirement.Met]
  | distinctFlags =>
      simp only [Requirement.rule, distinctFlags, on_flags_eq_none_iff, Option.map_eq_none_iff,
        first_repeated_value_eq_none_iff, Requirement.Met, Definition.values]
      simp
  | unsignedFlags =>
      simp only [Requirement.rule, unsignedFlags, on_flags_eq_none_iff, Requirement.Met]
      cases config.sizeTypes[definition.sizeIndex]? <;> simp
  | registeredStorage =>
      simp only [Requirement.rule, registeredStorage, Requirement.Met]
      cases registered : config.sizeTypes[definition.sizeIndex]? with
      | none => simpa using registered
      | some sizeType => simpa using (List.getElem?_eq_some_iff.1 registered).1
  | representableValues =>
      simp only [Requirement.rule, representableValues, Requirement.Met]
      cases registered : config.sizeTypes[definition.sizeIndex]? with
      | none => simp
      | some sizeType =>
          simp only [first_entry_eq_none_iff, Option.some.injEq, forall_eq', Bool.not_eq_false',
            decide_eq_true_eq]
          exact forall₂_congr fun entry member =>
            holds_iff_represents_of_registered accepted fits registered member
  | freeNames => simp [Requirement.rule, freeNames, first_entry_eq_none_iff, Requirement.Met]
  | singleBitFlags =>
      simp only [Requirement.rule, singleBitFlags, on_flags_eq_none_iff, Requirement.Met]
      cases config.singleBitFlags <;> simp [first_entry_eq_none_iff, is_single_bit_iff]
  | existingDefault =>
      simp only [Requirement.rule, existingDefault, Requirement.Met]
      cases definition.defaultName <;> simp

theorem rule_eq_some_iff (accepted : config.Accepted) (fits : definition.Fits)
    (requirement : Requirement) (failure : Failure) :
    requirement.rule config definition = some failure ↔
      requirement.Reports config definition failure := by
  cases requirement with
  | distinctNames =>
      simp only [Requirement.rule, distinctEntryNames, Option.map_eq_some_iff,
        Definition.entryNames, first_repeated_map_eq_some_iff, Requirement.Reports]
      constructor
      · rintro ⟨_, ⟨entry, earliest, rfl⟩, rfl⟩
        exact ⟨entry, earliest, rfl⟩
      · rintro ⟨entry, earliest, rfl⟩
        exact ⟨entry.name, ⟨entry, earliest, rfl⟩, rfl⟩
  | someEntry => simp [Requirement.rule, someEntry, Requirement.Reports]
  | nonnegativeFlags =>
      simp [Requirement.rule, nonnegativeFlags, on_flags_eq_some_iff, first_entry_eq_some_iff,
        Requirement.Reports]
  | distinctFlags =>
      simp only [Requirement.rule, distinctFlags, on_flags_eq_some_iff, Option.map_eq_some_iff,
        Prod.exists, first_repeated_value_eq_some_iff, List.nil_append, Requirement.Reports,
        and_assoc]
  | unsignedFlags =>
      simp only [Requirement.rule, unsignedFlags, on_flags_eq_some_iff, Requirement.Reports]
      cases config.sizeTypes[definition.sizeIndex]? <;> simp
  | registeredStorage =>
      simp only [Requirement.rule, registeredStorage, Requirement.Reports]
      cases registered : config.sizeTypes[definition.sizeIndex]? with
      | none =>
          have outside := List.getElem?_eq_none_iff.1 registered
          simp [outside]
      | some sizeType =>
          have inside := (List.getElem?_eq_some_iff.1 registered).1
          simp [Nat.not_le.2 inside]
  | representableValues =>
      simp only [Requirement.rule, representableValues, Requirement.Reports]
      cases registered : config.sizeTypes[definition.sizeIndex]? with
      | none => simp
      | some sizeType =>
          simp only [first_entry_eq_some_iff, Option.some.injEq, exists_and_left,
            exists_eq_left']
          refine exists_congr fun entry => and_congr_left fun _ => earliest_congr ?_
          intro _ other member
          simp [holds_iff_represents_of_registered accepted fits registered member]
  | freeNames => simp [Requirement.rule, freeNames, first_entry_eq_some_iff, Requirement.Reports]
  | singleBitFlags =>
      simp only [Requirement.rule, singleBitFlags, on_flags_eq_some_iff, Requirement.Reports]
      cases config.singleBitFlags <;> simp [first_entry_eq_some_iff, ← is_single_bit_iff]
  | existingDefault =>
      simp only [Requirement.rule, existingDefault, Requirement.Reports]
      cases definition.defaultName <;> simp

end Validation

end EnumHeader

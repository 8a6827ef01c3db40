import EnumHeader.Proofs.Cpp.Scope
import EnumHeader.Proofs.Validation.Order

/-!
# What violations say

The message of a violation names an enum and says something about it. What that is, is put down here
without the rules: a name that stands there twice, a value with several bits, a storage type that has
no such value. Every violation that validation reports is then compared with what it says, whatever
the configuration. Two of them can say too much: a flag without any bit is called one of several
bits, and a name is said to collide with a member that only other generated wrappers have.
-/

namespace EnumHeader

set_option autoImplicit false

section Statements

variable {Item : Type}

/-- The list holds one item of that name, and it is this one. -/
def IsOnly (nameOf : Item → String) (items : List Item) (name : String) (item : Item) : Prop :=
  items.filter (nameOf · = name) = [item]

theorem is_only_of_distinct {nameOf : Item → String} {items : List Item} {item : Item}
    (distinct : (items.map nameOf).Nodup) (member : item ∈ items) :
    IsOnly nameOf items (nameOf item) item := by
  unfold IsOnly
  induction items with
  | nil => cases member
  | cons first rest ih =>
      obtain ⟨fresh, others⟩ := List.nodup_cons.1 distinct
      rcases List.mem_cons.1 member with rfl | later
      · have none : rest.filter (nameOf · = nameOf item) = [] := by
          simp only [List.filter_eq_nil_iff, decide_eq_true_eq]
          intro other inside same
          exact fresh (List.mem_map.2 ⟨other, inside, same⟩)
        rw [List.filter_cons_of_pos (by simp), none]
      · have different : nameOf first ≠ nameOf item := by
          intro same
          exact fresh (List.mem_map.2 ⟨item, later, same.symm⟩)
        rw [List.filter_cons_of_neg (by simpa using different), ih others later]

/-- The entry of that name, of which there is no other, has that value. -/
def Definition.HasEntry (definition : Definition) (name : String) (value : Int) : Prop :=
  ∃ entry, IsOnly Entry.name definition.entries name entry ∧ entry.value = value

def SetsSeveralBits (n : Nat) : Prop :=
  ∃ low high, low < high ∧ n.testBit low = true ∧ n.testBit high = true

/-- Some generated wrapper declares a member of the name. Which members a wrapper has depends on its
kind and on the table of strings. -/
def IsMemberName (name : String) : Prop :=
  ∃ config kind, name ∈ Cpp.memberNames config kind

namespace Violation

def enum : Violation → String
  | .repeatedEnumName enum => enum
  | .repeatedEntryName enum _ => enum
  | .noEntries enum => enum
  | .negativeFlag enum _ _ => enum
  | .repeatedFlag enum _ _ _ => enum
  | .notSingleBit enum _ _ => enum
  | .outOfRange enum _ _ _ => enum
  | .reservedName enum _ => enum
  | .unknownDefault enum _ => enum

def HoldsOf (config : Config) (definition : Definition) : Violation → Prop
  | .repeatedEnumName _ => False
  | .repeatedEntryName _ entry => 2 ≤ definition.entryNames.count entry
  | .noEntries _ => definition.entries = []
  | .negativeFlag _ entry value =>
      definition.kind = .flags ∧ definition.HasEntry entry value ∧ value < 0
  | .repeatedFlag _ entry first value =>
      definition.kind = .flags ∧ definition.HasEntry entry value ∧
        definition.HasEntry first value ∧ [first, entry].Sublist definition.entryNames
  | .notSingleBit _ entry value =>
      definition.kind = .flags ∧ definition.HasEntry entry value ∧
        SetsSeveralBits (Integer.pattern value)
  | .outOfRange _ entry value sizeType =>
      definition.HasEntry entry value ∧
        ∃ storage, config.sizeTypes[definition.sizeIndex]? = some storage ∧
          storage.name = sizeType ∧ ¬storage.Represents value
  | .reservedName _ entry =>
      entry ∈ definition.entryNames ∧
        (entry = definition.name ∨ entry ∈ Cpp.memberNames config definition.kind)
  | .unknownDefault _ entry =>
      definition.defaultName = some entry ∧ entry ∉ definition.entryNames

/-- What the message says is true: of the list of definitions for a name that several have, and
otherwise of the only definition with the name that is given. -/
def Holds (config : Config) (definitions : List Definition) : Violation → Prop
  | .repeatedEnumName enum => 2 ≤ (definitions.map Definition.name).count enum
  | violation =>
      ∃ definition, IsOnly Definition.name definitions violation.enum definition ∧
        violation.HoldsOf config definition

inductive Overstates (config : Config) (definition : Definition) : Violation → Prop where
  /-- The flag is there, but its value sets no bit. -/
  | noBit (enum entry : String) (flags : definition.kind = .flags)
      (present : definition.HasEntry entry 0) :
      Overstates config definition (.notSingleBit enum entry 0)
  /-- The entry has the name of a generated member, but not of one that this wrapper has. -/
  | noMember (enum entry : String) (present : entry ∈ definition.entryNames)
      (other : entry ≠ definition.name) (elsewhere : IsMemberName entry)
      (absent : entry ∉ Cpp.memberNames config definition.kind) :
      Overstates config definition (.reservedName enum entry)

def Overstated (config : Config) (definitions : List Definition) (violation : Violation) :
    Prop :=
  ∃ definition, IsOnly Definition.name definitions violation.enum definition ∧
    violation.Overstates config definition

end Violation

end Statements

namespace Validation

section Facts

theorem two_le_count_of_earliest {names : List String} {name : String}
    (earliest : Earliest (fun before other => other ∈ before) names name) : 2 ≤ names.count name := by
  obtain ⟨before, after, rfl, repeated, -⟩ := earliest
  have once : 0 < before.count name := List.count_pos_iff.2 repeated
  rw [List.count_append, List.count_cons_self]
  omega

theorem two_le_count_of_first_repeated {names : List String} {name : String}
    (repeated : firstRepeated [] names = some name) : 2 ≤ names.count name := by
  apply two_le_count_of_earliest
  simpa using (first_repeated_eq_some_iff [] names name).1 repeated

theorem earlier_of_repeated {entries : List Entry} {entry first : Entry}
    (repeated : firstRepeatedValue [] entries = some (entry, first)) :
    first.value = entry.value ∧ [first, entry].Sublist entries := by
  obtain ⟨⟨before, after, rfl, again, -⟩, earliest⟩ :=
    (first_repeated_value_eq_some_iff [] entries entry first).1 repeated
  obtain ⟨other, inside, same⟩ := List.mem_map.1 again
  have search : (before ++ entry :: after).find? (·.value = entry.value) = some first := by
    rw [find_eq_some_iff_earliest]
    simpa using earliest
  have found : before.find? (·.value = entry.value) = some first := by
    cases early : before.find? (·.value = entry.value) with
    | none => exact absurd same (by simpa using List.find?_eq_none.1 early other inside)
    | some item => rwa [List.find?_append, early, Option.some_or] at search
  refine ⟨by simpa using List.find?_some found, ?_⟩
  exact (List.singleton_sublist.2 (List.mem_of_find?_eq_some found)).append
    ((List.nil_sublist after).cons_cons entry)

theorem sets_several_bits_of {n : Nat} (nonzero : n ≠ 0)
    (several : ¬∃! position, n.testBit position = true) : SetsSeveralBits n := by
  obtain ⟨position, set⟩ := Nat.exists_testBit_of_ne_zero nonzero
  by_contra single
  refine several ⟨position, set, fun other setToo => ?_⟩
  rcases Nat.lt_trichotomy other position with below | same | above
  · exact absurd ⟨other, position, below, setToo, set⟩ single
  · exact same
  · exact absurd ⟨position, other, above, set, setToo⟩ single

theorem not_sets_several_bits_zero : ¬SetsSeveralBits 0 := by
  rintro ⟨low, -, -, set, -⟩
  rw [Nat.zero_testBit] at set
  cases set

theorem member_name_of_reserved {name : String} (reserved : name ∈ reservedNames) :
    IsMemberName name := by
  have listed : ∀ name ∈ reservedNames,
      name ∈ Cpp.memberNames { stringTable := .namesAndDescriptions } .value ∨
        name ∈ Cpp.memberNames { stringTable := .namesAndDescriptions } .flags := by
    decide +kernel
  rcases listed name reserved with declared | declared
  · exact ⟨_, _, declared⟩
  · exact ⟨_, _, declared⟩

end Facts

section Rules

variable {config : Config} {definition : Definition} {violation : Violation}

theorem has_entry_of_distinct (distinct : definition.entryNames.Nodup) {entry : Entry}
    (member : entry ∈ definition.entries) : definition.HasEntry entry.name entry.value :=
  ⟨entry, is_only_of_distinct distinct member, rfl⟩

theorem entry_of_first_entry {isFault : Entry → Bool} {cause : Entry → Violation}
    (reported : firstEntry definition isFault cause = some (.violation violation)) :
    ∃ entry ∈ definition.entries, isFault entry = true ∧ cause entry = violation := by
  obtain ⟨entry, found, same⟩ := Option.map_eq_some_iff.1 reported
  exact ⟨entry, List.mem_of_find?_eq_some found, List.find?_some found, Failure.violation.inj same⟩

/-- What a violation tells of a definition: what is the case, or too much. -/
structure Tells (config : Config) (definition : Definition) (violation : Violation) : Prop where
  named : violation.enum = definition.name
  holds : violation.HoldsOf config definition ↔ ¬violation.Overstates config definition

theorem tells_of_holds (named : violation.enum = definition.name)
    (holds : violation.HoldsOf config definition)
    (exact : ¬violation.Overstates config definition) : Tells config definition violation :=
  ⟨named, fun _ => exact, fun _ => holds⟩

theorem tells_of_overstates (named : violation.enum = definition.name)
    (missed : ¬violation.HoldsOf config definition)
    (overstates : violation.Overstates config definition) : Tells config definition violation :=
  ⟨named, fun holds => absurd holds missed, fun exact => absurd overstates exact⟩

theorem tells_of_bits {enum entry : String} {value : Int} (named : enum = definition.name)
    (flags : definition.kind = .flags) (present : definition.HasEntry entry value)
    (fits : Integer.Fits value) (unlike : ¬SetsOneBit value) :
    Tells config definition (.notSingleBit enum entry value) := by
  by_cases zero : value = 0
  · subst zero
    exact tells_of_overstates named (fun holds => not_sets_several_bits_zero holds.2.2)
      (.noBit enum entry flags present)
  · have several : SetsSeveralBits (Integer.pattern value) :=
      sets_several_bits_of (mt (Integer.pattern_eq_zero_iff fits).1 zero) unlike
    refine tells_of_holds named ⟨flags, present, several⟩ ?_
    rintro ⟨⟩
    exact zero rfl

theorem tells_of_name {enum entry : String} (named : enum = definition.name)
    (present : entry ∈ definition.entryNames)
    (taken : entry = definition.name ∨ entry ∈ reservedNames) :
    Tells config definition (.reservedName enum entry) := by
  by_cases collides : entry = definition.name ∨ entry ∈ Cpp.memberNames config definition.kind
  · refine tells_of_holds named ⟨present, collides⟩ ?_
    rintro ⟨⟩
    next other _ absent => exact collides.elim other absent
  · have apart := not_or.1 collides
    have reserved := taken.resolve_left apart.1
    exact tells_of_overstates named (fun holds => collides holds.2)
      (.noMember enum entry present apart.1 (member_name_of_reserved reserved) apart.2)

/-- By the rule that reports the violation. Where entries are named, none shares its name, since only
the first rule looks at definitions in which that is not known. -/
theorem tells_of_rule (fits : definition.Fits) {requirement : Requirement}
    (distinct : requirement ≠ .distinctNames → definition.entryNames.Nodup)
    (reported : requirement.rule config definition = some (.violation violation)) :
    Tells config definition violation := by
  cases requirement with
  | distinctNames =>
      obtain ⟨entry, repeated, same⟩ := Option.map_eq_some_iff.1 reported
      obtain rfl := Failure.violation.inj same
      exact tells_of_holds rfl (two_le_count_of_first_repeated repeated) (by rintro ⟨⟩)
  | someEntry =>
      obtain ⟨empty, same⟩ := Option.ite_none_right_eq_some.1 reported
      obtain rfl := Failure.violation.inj (Option.some.inj same)
      exact tells_of_holds rfl (List.isEmpty_iff.1 empty) (by rintro ⟨⟩)
  | nonnegativeFlags =>
      simp only [Requirement.rule, nonnegativeFlags, on_flags_eq_some_iff] at reported
      obtain ⟨entry, member, negative, rfl⟩ := entry_of_first_entry reported.2
      have present := has_entry_of_distinct (distinct (by simp)) member
      exact tells_of_holds rfl ⟨reported.1, present, by simpa using negative⟩ (by rintro ⟨⟩)
  | distinctFlags =>
      simp only [Requirement.rule, distinctFlags, on_flags_eq_some_iff,
        Option.map_eq_some_iff] at reported
      obtain ⟨flags, ⟨entry, first⟩, repeated, same⟩ := reported
      obtain rfl := Failure.violation.inj same
      obtain ⟨equal, ordered⟩ := earlier_of_repeated repeated
      have present := has_entry_of_distinct (distinct (by simp))
        (ordered.subset (List.mem_pair.2 (.inr rfl)))
      have before := has_entry_of_distinct (distinct (by simp))
        (ordered.subset (List.mem_pair.2 (.inl rfl)))
      rw [equal] at before
      exact tells_of_holds rfl ⟨flags, present, before, ordered.map Entry.name⟩ (by rintro ⟨⟩)
  | unsignedFlags =>
      simp only [Requirement.rule, unsignedFlags, on_flags_eq_some_iff] at reported
      cases registered : config.sizeTypes[definition.sizeIndex]? <;> simp [registered] at reported
  | registeredStorage =>
      simp only [Requirement.rule, registeredStorage] at reported
      cases registered : config.sizeTypes[definition.sizeIndex]? <;> simp [registered] at reported
  | representableValues =>
      simp only [Requirement.rule, representableValues] at reported
      cases registered : config.sizeTypes[definition.sizeIndex]? with
      | none => simp [registered] at reported
      | some storage =>
          simp only [registered] at reported
          obtain ⟨entry, member, outside, rfl⟩ := entry_of_first_entry reported
          have present := has_entry_of_distinct (distinct (by simp)) member
          have unheld : ¬storage.Holds entry.value := by simpa using outside
          have missing : ¬storage.Represents entry.value := fun represented =>
            unheld (SizeType.holds_of_represents (fits entry member) represented)
          exact tells_of_holds rfl ⟨present, storage, registered, rfl, missing⟩ (by rintro ⟨⟩)
  | freeNames =>
      obtain ⟨entry, member, taken, rfl⟩ := entry_of_first_entry reported
      exact tells_of_name rfl (List.mem_map_of_mem member) (by simpa using taken)
  | singleBitFlags =>
      simp only [Requirement.rule, singleBitFlags, on_flags_eq_some_iff,
        Option.ite_none_right_eq_some] at reported
      obtain ⟨flags, -, broken⟩ := reported
      obtain ⟨entry, member, several, rfl⟩ := entry_of_first_entry broken
      have present := has_entry_of_distinct (distinct (by simp)) member
      have unlike : ¬SetsOneBit entry.value := by
        rw [← is_single_bit_iff]
        simpa using several
      exact tells_of_bits rfl flags present (fits entry member) unlike
  | existingDefault =>
      simp only [Requirement.rule, existingDefault] at reported
      cases given : definition.defaultName with
      | none => simp [given] at reported
      | some name =>
          simp only [given, Option.ite_none_left_eq_some] at reported
          obtain ⟨absent, same⟩ := reported
          obtain rfl := Failure.violation.inj (Option.some.inj same)
          exact tells_of_holds rfl ⟨given, by simpa using absent⟩ (by rintro ⟨⟩)

end Rules

section Lists

variable {config : Config} {definitions : List Definition} {definition : Definition}
  {violation : Violation}

theorem rule_of_definition_fault {failure : Failure}
    (reported : definitionFault config definition = some failure) :
    ∃ requirement : Requirement, requirement.rule config definition = some failure ∧
      (requirement ≠ .distinctNames → definition.entryNames.Nodup) := by
  unfold definitionFault rules at reported
  rw [List.findSome?_cons] at reported
  cases first : distinctEntryNames config definition with
  | some broken =>
      rw [first] at reported
      exact ⟨.distinctNames, first.trans reported, fun other => absurd rfl other⟩
  | none =>
      rw [first] at reported
      have distinct : definition.entryNames.Nodup :=
        (first_repeated_eq_none_iff_nodup _).1 (Option.map_eq_none_iff.1 first)
      obtain ⟨rule, listed, broken⟩ := List.exists_of_findSome?_eq_some reported
      have known : rule ∈ Requirement.order.map Requirement.rule :=
        List.mem_cons_of_mem _ listed
      obtain ⟨requirement, -, rfl⟩ := List.mem_map.1 known
      exact ⟨requirement, broken, fun _ => distinct⟩

theorem holds_iff_not_overstated (distinct : (definitions.map Definition.name).Nodup)
    (member : definition ∈ definitions) (tells : Tells config definition violation) :
    violation.Holds config definitions ↔ ¬violation.Overstated config definitions := by
  have only : IsOnly Definition.name definitions violation.enum definition :=
    tells.named ▸ is_only_of_distinct distinct member
  have same : ∀ {found}, IsOnly Definition.name definitions violation.enum found →
      found = definition := fun alone => List.singleton_inj.1 (alone.symm.trans only)
  have holds : violation.Holds config definitions ↔ violation.HoldsOf config definition := by
    cases violation with
    | repeatedEnumName enum =>
        -- this one is about no single definition, so that it tells nothing of one
        exact (tells.holds.2 (by rintro ⟨⟩)).elim
    | _ =>
        constructor
        · rintro ⟨found, alone, holds⟩
          exact same alone ▸ holds
        · exact fun holds => ⟨definition, only, holds⟩
  have overstated : violation.Overstated config definitions ↔
      violation.Overstates config definition := by
    constructor
    · rintro ⟨found, alone, overstates⟩
      exact same alone ▸ overstates
    · exact fun overstates => ⟨definition, only, overstates⟩
  rw [holds, overstated, tells.holds]

theorem reported_cases
    (reported : validate config definitions = .error (.violation violation)) :
    (∃ enum, violation = .repeatedEnumName enum ∧
        2 ≤ (definitions.map Definition.name).count enum) ∨
      (definitions.map Definition.name).Nodup ∧
        ∃ definition ∈ definitions,
          definitionFault config definition = some (.violation violation) := by
  have found := (validate_eq_error_iff_fault _).1 reported
  unfold fault at found
  split at found
  next name repeated =>
    obtain rfl := Failure.violation.inj (Option.some.inj found)
    exact .inl ⟨name, rfl, two_le_count_of_first_repeated repeated⟩
  next distinct =>
    exact .inr ⟨(first_repeated_eq_none_iff_nodup _).1 distinct,
      List.exists_of_findSome?_eq_some found⟩

end Lists

/-- The message of every violation that is reported says what is the case, unless it is one of the two
that say too much: that a flag sets several bits which sets none, and that a name collides which is
that of a member of other wrappers only. -/
theorem violations_tell_truth (config : Config) (definitions : List Definition)
    (violation : Violation) (fits : ∀ definition ∈ definitions, definition.Fits)
    (reported : validate config definitions = .error (.violation violation)) :
    violation.Holds config definitions ↔ ¬violation.Overstated config definitions := by
  rcases reported_cases reported with ⟨enum, rfl, several⟩ | ⟨distinct, definition, member, faulty⟩
  · refine ⟨fun _ => ?_, fun _ => several⟩
    rintro ⟨_, -, ⟨⟩⟩
  · obtain ⟨requirement, broken, entriesDistinct⟩ := rule_of_definition_fault faulty
    have tells := tells_of_rule (fits definition member) entriesDistinct broken
    exact holds_iff_not_overstated distinct member tells

def repeatingFlags : List Definition :=
  [{ name := "Mode", kind := .value, sizeIndex := 0, entries := [⟨"Off", 0, ""⟩, ⟨"On", 0, ""⟩] },
    { name := "Access", kind := .flags, sizeIndex := 0,
      entries := [⟨"Read", 1, ""⟩, ⟨"Write", 2, ""⟩, ⟨"Again", 1, ""⟩] }]

def wideRegistry : Config :=
  { sizeTypes := [⟨"wide", 200, false, "wide_t"⟩] }

theorem truth_of_repeating_flags :
    (∀ definition ∈ repeatingFlags, definition.Fits) ∧
      validate wideRegistry repeatingFlags =
        .error (.violation (.repeatedFlag "Access" "Again" "Read" 1)) ∧
      (Violation.repeatedFlag "Access" "Again" "Read" 1).Holds wideRegistry repeatingFlags := by
  have fits : ∀ definition ∈ repeatingFlags, definition.Fits := by
    simp [repeatingFlags, Definition.Fits, Integer.Fits, Integer.least, Integer.greatest]
  have reported : validate wideRegistry repeatingFlags =
      .error (.violation (.repeatedFlag "Access" "Again" "Read" 1)) := rfl
  have truth := violations_tell_truth wideRegistry repeatingFlags _ fits reported
  refine ⟨fits, reported, truth.2 ?_⟩
  rintro ⟨_, -, ⟨⟩⟩

def flagsWithNone : Definition :=
  { name := "Access", kind := .flags, sizeIndex := 4,
    entries := [⟨"Read", 1, ""⟩, ⟨"None", 0, ""⟩] }

def singleBits : Config :=
  { singleBitFlags := true }

/-- Where flags have to be single bits, zero is refused for having more than one. -/
theorem zero_flag_reported_as_several_bits :
    singleBits.check = .ok () ∧ flagsWithNone.Fits ∧
      validate singleBits [flagsWithNone] =
        .error (.violation (.notSingleBit "Access" "None" 0)) ∧
      ¬(Violation.notSingleBit "Access" "None" 0).Holds singleBits [flagsWithNone] := by
  refine ⟨rfl, ?_, rfl, ?_⟩
  · simp [flagsWithNone, Definition.Fits, Integer.Fits, Integer.least, Integer.greatest]
  · rintro ⟨definition, -, -, -, bits⟩
    exact not_sets_several_bits_zero bits

end Validation

end EnumHeader

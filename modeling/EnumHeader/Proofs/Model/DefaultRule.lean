import EnumHeader.Proofs.Model.Extremes
import EnumHeader.Proofs.Model.StorageWidth

/-!
# Which value is the default

A named entry is the default whatever the styles are. Otherwise the style of the definition decides,
or else that of the configuration for its kind, and each style has one outcome. A flags default is
written as the first entry with its value, and as a bare mask only where no entry has it. The default
of a validated definition lies in the storage range and passes the validity check.
-/

namespace EnumHeader

set_option autoImplicit false

open Outcome (bind_eq_ok_iff)

namespace Definition

/-- The style decides: no entry is named, and the definition has this style or has none and leaves
the choice to the configuration. -/
structure Uses (definition : Definition) (config : Config) (style : DefaultStyle) : Prop where
  unnamed : definition.defaultName = none
  chosen : definition.defaultStyle = some style ∨
    definition.defaultStyle = none ∧ config.defaultStyle definition.kind = style

/-- The default stands for the value by the first entry that has it, if there is one. -/
inductive Shows (definition : Definition) (value : Int) : DefaultValue → Prop where
  | entry {index : Nat} (first : definition.IsFirstWith value index) :
      Shows definition value (.entry index)
  | raw (absent : value ∉ definition.values) : Shows definition value (.raw value)

variable {config : Config} {definition : Definition} {default : DefaultValue}
  {style : DefaultStyle} {value : Int}

theorem Uses.effective (uses : definition.Uses config style) :
    definition.effectiveStyle config = style := by
  rcases uses.chosen with own | ⟨none, configured⟩
  · rw [effectiveStyle, own, Option.getD_some]
  · rw [effectiveStyle, none, Option.getD_none, configured]

theorem uses_effective (config : Config) (unnamed : definition.defaultName = none) :
    definition.Uses config (definition.effectiveStyle config) := by
  refine ⟨unnamed, ?_⟩
  unfold effectiveStyle
  cases definition.defaultStyle <;> simp

theorem IsFirstWith.value_of_entry {index : Nat} (first : definition.IsFirstWith value index) :
    (DefaultValue.entry index).value definition.entries = value := by
  obtain ⟨entry, found, valued⟩ := first.valued
  rw [DefaultValue.value, found, Option.getD_some, valued]

theorem Shows.value_eq (shown : definition.Shows value default) :
    default.value definition.entries = value := by
  cases shown with
  | entry first => exact first.value_of_entry
  | raw absent => rfl

theorem Shows.eq_entry_iff (shown : definition.Shows value default) (index : Nat) :
    default = .entry index ↔ definition.IsFirstWith value index := by
  cases shown with
  | entry first =>
      rw [DefaultValue.entry.injEq]
      exact ⟨fun same => same ▸ first, first.unique⟩
  | raw absent => exact ⟨nofun, fun first => absurd first.mem absent⟩

theorem Shows.eq_raw_iff (shown : definition.Shows value default) :
    default = .raw value ↔ value ∉ definition.values := by
  cases shown with
  | entry first => exact ⟨nofun, fun absent => absurd first.mem absent⟩
  | raw absent => exact ⟨fun _ => absent, fun _ => rfl⟩

section Resolved

variable (resolved : definition.resolveDefault config = .ok default)
include resolved

theorem named_of_resolve {name : String} (named : definition.defaultName = some name) :
    ∃ index entry, default = .entry index ∧ definition.entries[index]? = some entry ∧
      entry.name = name := by
  unfold resolveDefault at resolved
  simp only [named] at resolved
  split at resolved
  next index found =>
    obtain rfl := Except.ok.inj resolved
    obtain ⟨inside, same, -⟩ := List.findIdx?_eq_some_iff_getElem.1 found
    exact ⟨index, _, rfl, List.getElem?_eq_getElem inside, by simpa using same⟩
  next => cases resolved

variable (uses : definition.Uses config style)
include uses

theorem resolve_of_value (kind : definition.kind = .value) :
    ∃ index, valueDefault style definition.values = .ok index ∧ default = .entry index := by
  unfold resolveDefault at resolved
  simp only [uses.unnamed, uses.effective, kind] at resolved
  obtain ⟨index, picked, same⟩ := (bind_eq_ok_iff _ _ _).1 resolved
  exact ⟨index, picked, (Except.ok.inj same).symm⟩

theorem resolve_of_flags (kind : definition.kind = .flags) :
    ∃ value, flagsDefault style definition.values = .ok value ∧ definition.Shows value default := by
  unfold resolveDefault at resolved
  simp only [uses.unnamed, uses.effective, kind] at resolved
  obtain ⟨value, picked, same⟩ := (bind_eq_ok_iff _ _ _).1 resolved
  refine ⟨value, picked, ?_⟩
  cases found : definition.values.findIdx? (· = value) with
  | some index =>
      rw [found] at same
      obtain rfl := Except.ok.inj same
      exact .entry (find_idx_eq_some_iff.1 found)
  | none =>
      rw [found] at same
      obtain rfl := Except.ok.inj same
      refine .raw fun member => ?_
      simpa using List.findIdx?_eq_none_iff.1 found value member

/-- The kinds pick in different ways, and a flags enum searches for what it has picked. -/
theorem entry_of_picked {index : Nat}
    (ofValue : definition.kind = .value → valueDefault style definition.values = .ok index)
    (ofFlags : definition.kind = .flags → ∃ value, definition.IsFirstWith value index ∧
      flagsDefault style definition.values = .ok value) :
    default = .entry index := by
  cases kind : definition.kind with
  | value =>
      obtain ⟨other, picked, same⟩ := resolve_of_value resolved uses kind
      obtain rfl := Except.ok.inj ((ofValue kind).symm.trans picked)
      exact same
  | flags =>
      obtain ⟨other, picked, shown⟩ := resolve_of_flags resolved uses kind
      obtain ⟨value, first, found⟩ := ofFlags kind
      obtain rfl := Except.ok.inj (found.symm.trans picked)
      exact (shown.eq_entry_iff index).2 first

theorem flags_of_uses (misplaced : ¬style.AppliesTo .value) : definition.kind = .flags := by
  cases kind : definition.kind with
  | flags => rfl
  | value =>
      obtain ⟨index, picked, -⟩ := resolve_of_value resolved uses kind
      have nonempty := values_nonempty_of_resolve resolved
      rw [value_default_of_not_applies nonempty misplaced] at picked
      cases picked

end Resolved

theorem index_of_resolve {index : Nat}
    (resolved : definition.resolveDefault config = .ok (.entry index)) :
    index < definition.entries.length := by
  cases unnamed : definition.defaultName with
  | some name =>
      obtain ⟨other, entry, same, found, -⟩ := named_of_resolve resolved unnamed
      obtain rfl := DefaultValue.entry.inj same
      exact (List.getElem?_eq_some_iff.1 found).1
  | none =>
      have uses := uses_effective config unnamed
      cases kind : definition.kind with
      | value =>
          obtain ⟨other, picked, same⟩ := resolve_of_value resolved uses kind
          obtain rfl := DefaultValue.entry.inj same
          have nonempty := values_nonempty_of_resolve resolved
          by_cases applies : (definition.effectiveStyle config).AppliesTo .value
          · obtain ⟨there, inside, picked'⟩ := value_default_of_applies nonempty applies
            obtain rfl := Except.ok.inj (picked.symm.trans picked')
            simpa [values] using inside
          · rw [value_default_of_not_applies nonempty applies] at picked
            cases picked
      | flags =>
          obtain ⟨value, -, shown⟩ := resolve_of_flags resolved uses kind
          exact ((shown.eq_entry_iff index).1 rfl).declared

section Picked

variable (nonempty : definition.values ≠ [])
include nonempty

theorem value_default_of_extremes {min max : Int} {least greatest : Nat}
    (isLeast : IsLeast {value | value ∈ definition.values} min)
    (isGreatest : IsGreatest {value | value ∈ definition.values} max)
    (first : definition.IsFirstWith min least) (last : definition.IsFirstWith max greatest) :
    valueDefault .min definition.values = .ok least ∧
      valueDefault .max definition.values = .ok greatest := by
  have minFound : minIndex definition.values = least := by
    rw [minIndex, ValueSet.min_eq_some_iff.2 isLeast, Option.getD_some]
    exact (first_with_idx_of isLeast.1).unique first
  have maxFound : maxIndex definition.values = greatest := by
    rw [maxIndex, ValueSet.max_eq_some_iff.2 isGreatest, Option.getD_some]
    exact (first_with_idx_of isGreatest.1).unique last
  simp [valueDefault, nonempty, minFound, maxFound]

theorem flags_default_of_extremes {min max : Int}
    (isLeast : IsLeast {value | value ∈ definition.values} min)
    (isGreatest : IsGreatest {value | value ∈ definition.values} max) :
    flagsDefault .min definition.values = .ok min ∧
      flagsDefault .max definition.values = .ok max := by
  simp [flagsDefault, nonempty, ValueSet.min_eq_some_iff.2 isLeast,
    ValueSet.max_eq_some_iff.2 isGreatest]

end Picked

end Definition

structure Model.HasDefault (config : Config) (model : Model) : Prop where
  stored : model.sizeType.Holds model.defaultValue
  accepted : model.metadata.validity.accepts model.defaultValue = true
  /-- A name wins over every style, and there is one entry of that name. -/
  named : ∀ name, model.definition.defaultName = some name →
    ∃ index entry, model.metadata.default = .entry index ∧
      model.definition.entries[index]? = some entry ∧ entry.name = name ∧
      ∀ other ∈ model.definition.entries, other.name = name → other = entry
  extremes : ∃ min max, model.NamesExtremes min max
  least : model.definition.Uses config .min →
    model.metadata.default = .entry model.metadata.minEntry
  greatest : model.definition.Uses config .max →
    model.metadata.default = .entry model.metadata.maxEntry
  first : model.definition.Uses config .first → model.metadata.default = .entry 0
  last : model.definition.Uses config .last →
    model.metadata.default = .entry (model.definition.entries.length - 1)
  noBits : model.definition.Uses config .zero → model.defaultValue = 0
  allBits : model.definition.Uses config .usedBitsSet →
    model.defaultValue = model.metadata.usedBits
  entryOfFlags : model.definition.kind = .flags → ∀ index,
    model.metadata.default = .entry index ↔ model.definition.IsFirstWith model.defaultValue index
  rawOfFlags : model.definition.kind = .flags →
    (model.metadata.default = .raw model.defaultValue ↔
      model.defaultValue ∉ model.definition.values)

namespace Model.Validated

variable {config : Config} {model : Model} (validated : model.Validated config)
  (resolved : model.definition.resolveDefault config = .ok model.metadata.default)
include validated

theorem distinct_of_flags (kind : model.definition.kind = .flags) : model.definition.values.Nodup :=
  validated.valid .distinctFlags kind

theorem only_named {entry other : Entry} (member : entry ∈ model.definition.entries)
    (member' : other ∈ model.definition.entries) (same : other.name = entry.name) : other = entry :=
  List.inj_on_of_nodup_map validated.names_distinct member' member same

include resolved

theorem extreme_defaults :
    (model.definition.Uses config .min →
        model.metadata.default = .entry model.metadata.minEntry) ∧
      (model.definition.Uses config .max →
        model.metadata.default = .entry model.metadata.maxEntry) := by
  have nonempty := Definition.values_nonempty validated.valid
  obtain ⟨min, max, named⟩ := Model.names_extremes nonempty validated.derived
  obtain ⟨minValue, maxValue⟩ := Definition.value_default_of_extremes nonempty named.least
    named.greatest named.minEntry named.maxEntry
  obtain ⟨minFlags, maxFlags⟩ :=
    Definition.flags_default_of_extremes nonempty named.least named.greatest
  constructor
  · intro uses
    exact Definition.entry_of_picked resolved uses (fun _ => minValue)
      fun _ => ⟨min, named.minEntry, minFlags⟩
  · intro uses
    exact Definition.entry_of_picked resolved uses (fun _ => maxValue)
      fun _ => ⟨max, named.maxEntry, maxFlags⟩

theorem first_default (uses : model.definition.Uses config .first) :
    model.metadata.default = .entry 0 := by
  obtain ⟨head, rest, entries⟩ := List.exists_cons_of_ne_nil (validated.valid .someEntry)
  have first : model.definition.IsFirstWith head.value 0 :=
    ⟨⟨head, by simp [entries], rfl⟩, fun _ before => absurd before (Nat.not_lt_zero _)⟩
  apply Definition.entry_of_picked resolved uses
  · intro kind
    simp [valueDefault, Definition.values, entries]
  · intro kind
    exact ⟨head.value, first, by simp [flagsDefault, Definition.values, entries]⟩

theorem last_default (uses : model.definition.Uses config .last) :
    model.metadata.default = .entry (model.definition.entries.length - 1) := by
  obtain ⟨before, final, entries⟩ :=
    (List.eq_nil_or_concat' _).resolve_left (validated.valid .someEntry)
  apply Definition.entry_of_picked resolved uses
  · intro kind
    simp [valueDefault, Definition.values, entries]
  · intro kind
    refine ⟨final.value, ?_, by simp [flagsDefault, Definition.values, entries]⟩
    apply Definition.first_with_of_distinct (validated.distinct_of_flags kind)
    simp [entries]

theorem shows_of_flags (kind : model.definition.kind = .flags) :
    model.definition.Shows model.defaultValue model.metadata.default := by
  cases unnamed : model.definition.defaultName with
  | some name =>
      obtain ⟨index, entry, same, found, -⟩ := Definition.named_of_resolve resolved unnamed
      have first := Definition.first_with_of_distinct (validated.distinct_of_flags kind) found
      have valued : model.defaultValue = entry.value := by
        rw [Model.defaultValue, same, first.value_of_entry]
      rw [valued, same]
      exact .entry first
  | none =>
      obtain ⟨value, -, shown⟩ := Definition.resolve_of_flags resolved
        (Definition.uses_effective config unnamed) kind
      have valued : model.defaultValue = value := shown.value_eq
      rwa [valued]

theorem no_bits_default (uses : model.definition.Uses config .zero) : model.defaultValue = 0 := by
  have kind := Definition.flags_of_uses resolved uses (by decide)
  obtain ⟨value, picked, shown⟩ := Definition.resolve_of_flags resolved uses kind
  have zero : flagsDefault .zero model.definition.values = .ok 0 := by
    simp [flagsDefault, Definition.values_nonempty validated.valid]
  obtain rfl := Except.ok.inj (zero.symm.trans picked)
  exact shown.value_eq

theorem all_bits_default (uses : model.definition.Uses config .usedBitsSet) :
    model.defaultValue = model.metadata.usedBits := by
  have kind := Definition.flags_of_uses resolved uses (by decide)
  obtain ⟨value, picked, shown⟩ := Definition.resolve_of_flags resolved uses kind
  have union : flagsDefault .usedBitsSet model.definition.values =
      .ok (Integer.ofPattern (ValueSet.usedBits model.definition.values)) := by
    simp [flagsDefault, Definition.values_nonempty validated.valid]
  obtain rfl := Except.ok.inj (union.symm.trans picked)
  have power : 2 ^ min model.sizeType.effectiveBits 127 ≤ 2 ^ 127 :=
    Nat.pow_le_pow_right (by omega) (by omega)
  have small := (validated.used_bits_lt kind).trans_le power
  have mask : model.metadata.usedBits = ValueSet.usedBits model.definition.values := by
    obtain ⟨default, derived⟩ := validated.derived
    rw [derived, kind]
    exact ValueSet.used_bits_of_list _
  rw [Model.defaultValue, shown.value_eq, mask, Integer.of_pattern_of_lt small]

end Model.Validated

/-- Under an accepted configuration, the default of a validated definition belongs to the enum, is the
named entry where one is named, and is otherwise what the style in force says. -/
theorem default_follows_rule (config : Config) (definitions : List Definition)
    (definition : Definition) (model : Model) (checked : config.check = .ok ())
    (passed : Validation.validate config definitions = .ok ()) (member : definition ∈ definitions)
    (built : Model.build config definition = .ok model) :
    model.definition = definition ∧ model.HasDefault config := by
  obtain ⟨rfl, validated⟩ := Model.validated_of_build checked passed member built
  have resolved := (Model.default_of_build built).2
  obtain ⟨stored, accepted⟩ :=
    (validated.accepted_iff _).2 (validated.admits_of_origin (validated.origin_of_build built))
  obtain ⟨least, greatest⟩ := validated.extreme_defaults resolved
  refine ⟨rfl, ?_⟩
  constructor
  · exact stored
  · exact accepted
  · intro name named
    obtain ⟨index, entry, same, found, rfl⟩ := Definition.named_of_resolve resolved named
    exact ⟨index, entry, same, found, rfl, fun other declared =>
      validated.only_named (List.mem_of_getElem? found) declared⟩
  · exact Model.names_extremes_of_build built
  · exact least
  · exact greatest
  · exact validated.first_default resolved
  · exact validated.last_default resolved
  · exact validated.no_bits_default resolved
  · exact validated.all_bits_default resolved
  · exact fun kind => (validated.shows_of_flags resolved kind).eq_entry_iff
  · exact fun kind => (validated.shows_of_flags resolved kind).eq_raw_iff

def combinedAccess : Definition :=
  { name := "Access", kind := .flags, sizeIndex := 4, defaultStyle := some .usedBitsSet,
    entries := [⟨"Read", 4, ""⟩, ⟨"Write", 1, ""⟩, ⟨"Execute", 16, ""⟩] }

theorem default_of_combined_access :
    ({} : Config).check = .ok () ∧ Validation.validate {} [combinedAccess] = .ok () ∧
      ∃ model, Model.build {} combinedAccess = .ok model ∧ model.HasDefault {} ∧
        combinedAccess.Uses {} .usedBitsSet ∧ model.defaultValue = 21 ∧
        model.metadata.default = .raw 21 := by
  refine ⟨rfl, rfl, _, rfl, ?_, ⟨rfl, Or.inl rfl⟩, rfl, rfl⟩
  exact (default_follows_rule {} [combinedAccess] combinedAccess _ rfl rfl (by simp) rfl).2

end EnumHeader

import EnumHeader.Proofs.Machine.Default
import EnumHeader.Proofs.Machine.Width
import EnumHeader.Proofs.Model.Canonical
import EnumHeader.Proofs.Model.DefaultRule

/-!
# Models in machine arithmetic

A model derived with checked operations only. Neither the configuration nor the definition need be
valid for it: no operation is a trap, and the outcome is that of the exact derivation. The positions
that a model holds are therefore positions of entries, and its canonical entries are as many as its
distinct values.
-/

namespace EnumHeader

set_option autoImplicit false

open Outcome (bind_of_ok)

namespace Machine

section Definitions

/-- The check of a run. A bound that the storage type has anyway is left out. -/
def runValidity (min max : Int) (bounds : Int × Int) : Validity :=
  match min == bounds.1, max == bounds.2 with
  | true, true => .always
  | true, false => .upperBound max
  | false, true => .lowerBound min
  | false, false => .range min max

def valueValidity (unique : List Int) (contiguous : Bool) (sizeType : SizeType) :
    Checked Validity := do
  let min ← itemAt unique 0
  let max ← itemAt unique (← subCounts unique.length 1)
  if unique.length = 1 then return .singleValue min
  else if !contiguous then return .scan unique
  else
    let bounds ← range sizeType
    return runValidity min max bounds

def flagsValidity (mask : Word) (contiguous : Bool) (sizeType : SizeType) : Checked Validity := do
  let bounds ← range sizeType
  if mask = toWord bounds.2 then return .always
  else if contiguous && mask &&& 1 == 1 then return .flagsLowMask mask.toNat
  else return .flagsMask mask.toNat

def measure (kind : Kind) (sizeType : SizeType) (default : DefaultValue) (entries : List Entry) :
    Checked Metadata := do
  let found ← extremes entries
  let min ← valueAt entries found.1
  let max ← valueAt entries found.2
  let uniqueValues := ValueSet.ofList (entries.map Entry.value)
  let mask := usedBits uniqueValues
  match kind with
  | .value =>
      let isContiguous := isRun uniqueValues
      let storageBits ← valueBits sizeType.signed min max
      let validity ← valueValidity uniqueValues isContiguous sizeType
      let transmissionBits ← transmissionBits .value min max
      return { minEntry := found.1, maxEntry := found.2, default, uniqueValues, isContiguous,
               storageBits, transmissionBits, usedBits := 0, validity }
  | .flags =>
      let isContiguous ← isBlock mask
      let storageBits ← valueBits false 0 max
      let validity ← flagsValidity mask isContiguous sizeType
      let transmissionBits ← transmissionBits .flags min max
      return { minEntry := found.1, maxEntry := found.2, default, uniqueValues, isContiguous,
               storageBits, transmissionBits, usedBits := mask.toNat, validity }

def derive (config : Config) (definition : Definition) : Attempt Metadata :=
  match config.sizeTypes[definition.sizeIndex]? with
  | none =>
      throw (.unsupported
        (.unknownStorage definition.name definition.sizeIndex config.sizeTypes.length))
  | some sizeType => do
      let default ← resolveDefault definition config
      liftM (measure definition.kind sizeType default definition.entries)

/-- The storage type is looked up once more, now without asking whether it is there. -/
def build (config : Config) (definition : Definition) : Attempt Model := do
  let metadata ← derive config definition
  let sizeType ← liftM (itemAt config.sizeTypes definition.sizeIndex)
  return ⟨definition, sizeType, metadata⟩

end Definitions

/-- Without an entry there would be a trap, whatever the default is. -/
example (kind : Kind) (sizeType : SizeType) (default : DefaultValue) :
    measure kind sizeType default [] = .error .index := rfl

theorem highest_is_value (sizeType : SizeType) :
    0 ≤ sizeType.highest ∧ Integer.Fits sizeType.highest := by
  have power : (0 : Int) < 2 ^ (sizeType.effectiveBits - 1) := by positivity
  have power' : (0 : Int) < 2 ^ sizeType.effectiveBits := by positivity
  have bounds : sizeType.lowest ≤ 0 ∧ 0 ≤ sizeType.highest := by
    simp only [SizeType.lowest, SizeType.highest, Integer.int_pow_eq, Integer.greatest]
    split_ifs <;> omega
  have held : sizeType.Holds sizeType.highest := ⟨bounds.1.trans bounds.2, le_refl _⟩
  exact ⟨bounds.2, sizeType.fits_of_holds held⟩

theorem run_validity_eq (min max lowest highest : Int) :
    runValidity min max (lowest, highest) =
      if min = lowest then if max = highest then .always else .upperBound max
      else if max = highest then .lowerBound min
      else .range min max := by
  unfold runValidity
  split_ifs with least greatest greatest <;> simp [beq_eq_decide, least, greatest]

theorem value_validity_eq {unique : List Int} (nonempty : unique ≠ []) (sizeType : SizeType) :
    valueValidity unique (ValueSet.isRun unique) sizeType =
      .ok (Validity.ofValues sizeType unique) := by
  obtain ⟨min, max, head, last⟩ := ValueSet.exists_ends nonempty
  have first : itemAt unique 0 = .ok min := item_at_of_found (by rw [← List.head?_eq_getElem?, head])
  have final : itemAt unique (unique.length - 1) = .ok max :=
    item_at_of_found (by rw [← List.getLast?_eq_getElem?, last])
  unfold valueValidity Validity.ofValues
  rw [bind_of_ok first, bind_of_ok (sub_counts_of_le (List.length_pos_iff.2 nonempty)),
    bind_of_ok final, bind_of_ok (range_eq sizeType), head, last]
  split_ifs with single gaps
  · rfl
  · rfl
  · exact congrArg Except.ok (run_validity_eq min max sizeType.lowest sizeType.highest)

theorem flags_validity_eq (mask : Word) (sizeType : SizeType) :
    flagsValidity mask (ValueSet.isBlock mask.toNat) sizeType =
      .ok (Validity.ofFlags sizeType mask.toNat) := by
  obtain ⟨nonneg, fits⟩ := highest_is_value sizeType
  have full : mask = toWord sizeType.highest ↔ (mask.toNat : Int) = sizeType.highest := by
    rw [← BitVec.toNat_inj, to_nat_of_nonneg nonneg fits]
    omega
  have odd : (mask &&& 1 == 1) = (mask.toNat % 2 == 1) := by
    rw [Bool.eq_iff_iff, beq_iff_eq, beq_iff_eq, ← BitVec.toNat_inj, BitVec.toNat_and, to_nat_one,
      Nat.and_one_is_mod]
  unfold flagsValidity Validity.ofFlags
  rw [bind_of_ok (range_eq sizeType)]
  simp only [full, odd]
  split_ifs <;> rfl

theorem measure_eq (kind : Kind) (sizeType : SizeType) (default : DefaultValue)
    {entries : List Entry} (nonempty : entries ≠ [])
    (fits : ∀ entry ∈ entries, Integer.Fits entry.value) :
    measure kind sizeType default entries =
      .ok (Metadata.ofValues kind sizeType default (entries.map Entry.value)) := by
  obtain ⟨min, max, least, greatest, ends, isMin, isMax⟩ := extremes_eq nonempty
  have low := fits least (List.mem_of_getElem? isMin.found)
  have high := fits greatest (List.mem_of_getElem? isMax.found)
  have unique : ValueSet.ofList (entries.map Entry.value) ≠ [] :=
    List.ne_nil_of_mem (ValueSet.mem_of_list_iff.2
      (List.mem_map_of_mem (List.mem_of_getElem? isMin.found)))
  unfold measure Metadata.ofValues
  rw [bind_of_ok ends, bind_of_ok (value_at_of_found isMin.found),
    bind_of_ok (value_at_of_found isMax.found), isMin.min_eq, isMax.max_eq, isMin.min_index,
    isMax.max_index]
  cases kind with
  | value =>
      simp only [is_run_eq, Option.getD_some]
      rw [bind_of_ok (value_bits_eq sizeType.signed low high),
        bind_of_ok (value_validity_eq unique sizeType),
        bind_of_ok (transmission_bits_eq .value _ high)]
      rfl
  | flags =>
      have zero : Integer.Fits 0 := by decide
      simp only [Option.getD_some]
      rw [bind_of_ok (is_block_eq _), bind_of_ok (value_bits_eq false zero high),
        bind_of_ok (flags_validity_eq _ sizeType), bind_of_ok (transmission_bits_eq .flags _ high),
        to_nat_used_bits]
      rfl

/-- A default is looked for first, so that nothing is measured where there is no entry. -/
theorem build_yields (config : Config) {definition : Definition} (fits : definition.Fits) :
    Yields (build config definition) (Model.build config definition) := by
  unfold build derive Model.build
  cases registered : config.sizeTypes[definition.sizeIndex]? with
  | none => rfl
  | some sizeType =>
      have storage : itemAt config.sizeTypes definition.sizeIndex = .ok sizeType :=
        item_at_of_found registered
      simp only [bind_assoc]
      apply yields_bind (resolve_default_yields config definition)
      intro default resolved
      have nonempty : definition.entries ≠ [] := by
        simpa [Definition.values] using Definition.values_nonempty_of_resolve resolved
      apply yields_of_ok (measure_eq definition.kind sizeType default nonempty fits)
      apply yields_of_ok storage
      rfl

end Machine

structure Model.IsIndexed (model : Model) : Prop where
  minEntry : model.metadata.minEntry < model.definition.entries.length
  maxEntry : model.metadata.maxEntry < model.definition.entries.length
  default : ∀ index, model.metadata.default = .entry index → index < model.definition.entries.length
  extremes : ∃ min max, model.NamesExtremes min max
  canonical : model.canonicalEntries.length = model.metadata.uniqueCount

theorem Model.indexed_of_build {config : Config} {definition : Definition} {model : Model}
    (built : Model.build config definition = .ok model) : model.IsIndexed := by
  obtain ⟨min, max, named⟩ := names_extremes_of_build built
  obtain ⟨rfl, resolved⟩ := default_of_build built
  obtain ⟨-, -, derived⟩ := build_eq_ok built
  constructor
  · exact named.minEntry.declared
  · exact named.maxEntry.declared
  · intro index same
    exact Definition.index_of_resolve (same ▸ resolved)
  · exact ⟨min, max, named⟩
  · rw [Metadata.uniqueCount, ← values_of_canonical derived, List.length_map]

/-- Whatever the configuration and the definition are, the derivation of a model has an outcome in
checked arithmetic, the one of the exact derivation; in a model the entries can be looked up. -/
theorem Model.build_meets_no_trap (config : Config) (definition : Definition)
    (fits : definition.Fits) :
    (Machine.build config definition).run = .ok (Model.build config definition) ∧
      ∀ model, Model.build config definition = .ok model →
        model.definition = definition ∧ model.IsIndexed := by
  constructor
  · exact Machine.build_yields config fits
  · intro model built
    exact ⟨(build_eq_ok built).1, indexed_of_build built⟩

def oddWidths : Config :=
  { sizeTypes := [⟨"wide", 200, true, "wide_t"⟩, ⟨"empty", 0, false, "empty_t"⟩] }

def distantFlags : Definition :=
  { name := "", kind := .flags, sizeIndex := 1, defaultStyle := some .usedBitsSet,
    entries := [⟨"None", -1, ""⟩, ⟨"", Integer.least, ""⟩, ⟨"", Integer.greatest, ""⟩,
      ⟨"", Integer.least, ""⟩] }

theorem build_of_distant_flags :
    distantFlags.Fits ∧
      ∃ model, (Machine.build oddWidths distantFlags).run = .ok (.ok model) ∧ model.IsIndexed ∧
        model.metadata.minEntry = 1 ∧ model.metadata.maxEntry = 2 ∧
        model.metadata.default = .entry 0 ∧ model.canonicalEntries.length = 3 := by
  have fits : distantFlags.Fits := by
    unfold distantFlags Definition.Fits
    decide
  obtain ⟨outcome, models⟩ := Model.build_meets_no_trap oddWidths distantFlags fits
  refine ⟨fits, _, outcome.trans rfl, (models _ rfl).2, rfl, rfl, rfl, rfl⟩

end EnumHeader

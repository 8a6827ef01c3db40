import EnumHeader.Proofs.Declaration.Assignment
import EnumHeader.Proofs.Declaration.Resolved
import EnumHeader.Proofs.Declaration.Stated
import EnumHeader.Proofs.Text.Notation

/-!
# Numbering the entries of an enum

Entries get their values one after the other, each from the values before it alone. An entry that
states none follows these values, and an enum fails for want of a value exactly where nothing
follows them. So what stands after an entry never changes its value: an enum that is cut off after
some of its entries keeps the values of those.
-/

namespace EnumHeader

set_option autoImplicit false

open Outcome (bind_eq_ok_iff bind_eq_error_iff)

def EnumDeclaration.withEntries (declaration : EnumDeclaration) (entries : List EntryDeclaration) :
    EnumDeclaration :=
  { declaration with entries }

namespace EntryDeclaration

open Assigned (ofValues next_of_values next_of_exhausted)

variable {kind : Kind} {enum : String} {values : List Int}

section Entry

variable {declaration : EntryDeclaration}

theorem resolve_of_omitted (omitted : declaration.value = none)
    (identifier : Text.isIdentifier declaration.name = true) (assigned : Assigned) :
    declaration.resolve kind enum assigned =
      (assigned.next kind enum).map fun value =>
        ⟨declaration.name, value, declaration.description⟩ := by
  unfold resolve
  rw [if_pos identifier, omitted]
  cases assigned.next kind enum <;> rfl

theorem fits_of_stated {stated : StatedValue} {entry : Entry} (fits : declaration.Fits)
    (resolves : declaration.ResolvesTo entry) (value : declaration.value = some stated) :
    Integer.Fits entry.value := by
  cases stated with
  | integer own =>
      rw [resolves.integer own value]
      exact fits (.integer own) value
  | numeral text =>
      have read := resolves.numeral text value
      exact ((Text.read_value_eq_some_iff text entry.value).1 read).2

/-- An omitted value is the one that follows; in any case the value fits. -/
theorem follows_of_resolve (fits : declaration.Fits) (within : ∀ value ∈ values, Integer.Fits value)
    {entry : Entry} (resolved : declaration.resolve kind enum (ofValues values) = .ok entry) :
    (declaration.value = none → Follows kind values entry.value) ∧ Integer.Fits entry.value := by
  have resolves := resolves_of_resolve resolved
  cases stated : declaration.value with
  | some own => exact ⟨nofun, fits_of_stated fits resolves stated⟩
  | none =>
      rw [resolve_of_omitted stated (resolves.name ▸ resolves.identifier)] at resolved
      have left : ¬ Exhausted kind values := by
        intro exhausted
        rw [next_of_exhausted enum exhausted] at resolved
        cases resolved
      obtain ⟨value, next, follows, valueFits⟩ := next_of_values enum kind within left
      rw [next] at resolved
      obtain rfl := Except.ok.inj resolved
      exact ⟨fun _ => follows, valueFits⟩

theorem exhausted_of_resolve (within : ∀ value ∈ values, Integer.Fits value)
    (failed : declaration.resolve kind enum (ofValues values) = .error (exhaustion kind enum)) :
    declaration.value = none ∧ Text.isIdentifier declaration.name = true ∧
      Exhausted kind values := by
  have notInvalid (key value : String) : exhaustion kind enum ≠ .invalidValue key value := by
    cases kind <;> nofun
  by_cases identifier : Text.isIdentifier declaration.name = true
  · cases stated : declaration.value with
    | none =>
        refine ⟨rfl, identifier, ?_⟩
        by_contra left
        obtain ⟨value, next, -⟩ := next_of_values enum kind within left
        rw [resolve_of_omitted stated identifier, next] at failed
        cases failed
    | some own =>
        unfold resolve at failed
        rw [if_pos identifier, stated] at failed
        rcases (bind_eq_error_iff _ _ _).1 failed with failed | ⟨_, -, failed⟩
        · cases own with
          | integer value => cases failed
          | numeral text =>
              simp only [StatedValue.resolve] at failed
              split at failed
              next => cases failed
              next => exact absurd (Except.error.inj failed).symm (notInvalid _ _)
        · cases failed
  · unfold resolve at failed
    rw [if_neg identifier] at failed
    exact absurd (Except.error.inj failed).symm (notInvalid _ _)

end Entry

section Entries

/-- Later entries see of the earlier ones their values only. -/
theorem resolve_all_append (values : List Int) (before after : List EntryDeclaration) :
    resolveAll kind enum (ofValues values) (before ++ after) = do
      let earlier ← resolveAll kind enum (ofValues values) before
      let later ← resolveAll kind enum (ofValues (values ++ earlier.map Entry.value)) after
      return earlier ++ later := by
  induction before generalizing values with
  | nil =>
      change _ = do
        let later ← resolveAll kind enum (ofValues (values ++ [])) after
        return [] ++ later
      simp only [List.append_nil, List.nil_append, bind_pure]
  | cons first rest ih =>
      simp only [List.cons_append, resolveAll, ← Assigned.of_values_concat, ih, bind_assoc,
        pure_bind, List.map_cons, List.append_assoc, List.nil_append]

theorem resolve_all_append_eq_ok_iff {before after : List EntryDeclaration} {entries : List Entry} :
    resolveAll kind enum (ofValues values) (before ++ after) = .ok entries ↔
      ∃ earlier later, resolveAll kind enum (ofValues values) before = .ok earlier ∧
        resolveAll kind enum (ofValues (values ++ earlier.map Entry.value)) after = .ok later ∧
          entries = earlier ++ later := by
  rw [resolve_all_append]
  simp only [bind_eq_ok_iff, exists_and_left]
  refine exists_congr fun earlier => and_congr_right fun _ => exists_congr fun later =>
    and_congr_right fun _ => ?_
  exact ⟨fun same => (Except.ok.inj same).symm, fun same => same ▸ rfl⟩

theorem resolve_all_single (values : List Int) (declaration : EntryDeclaration) :
    resolveAll kind enum (ofValues values) [declaration] =
      (declaration.resolve kind enum (ofValues values)).map ([·]) := by
  simp only [resolveAll]
  cases declaration.resolve kind enum (ofValues values) <;> rfl

theorem fits_of_resolve_all {declarations : List EntryDeclaration}
    (fits : ∀ declaration ∈ declarations, declaration.Fits)
    (within : ∀ value ∈ values, Integer.Fits value) {entries : List Entry}
    (resolved : resolveAll kind enum (ofValues values) declarations = .ok entries) :
    ∀ value ∈ values ++ entries.map Entry.value, Integer.Fits value := by
  induction declarations generalizing values entries with
  | nil =>
      obtain rfl := Except.ok.inj resolved
      simpa using within
  | cons first rest ih =>
      obtain ⟨firstFits, fits⟩ := List.forall_mem_cons.1 fits
      obtain ⟨entry, head, resolved⟩ := (bind_eq_ok_iff _ _ _).1 resolved
      obtain ⟨later, tail, same⟩ := (bind_eq_ok_iff _ _ _).1 resolved
      obtain rfl := Except.ok.inj same
      rw [← Assigned.of_values_concat] at tail
      have entryFits := (follows_of_resolve firstFits within head).2
      have through : ∀ value ∈ values ++ [entry.value], Integer.Fits value :=
        List.forall_mem_append.2 ⟨within, List.forall_mem_singleton.2 entryFits⟩
      simpa using ih fits through tail

variable {before after : List EntryDeclaration} {omitted : EntryDeclaration}

theorem resolve_all_of_exhausted (stated : omitted.value = none)
    (identifier : Text.isIdentifier omitted.name = true) {earlier : List Entry}
    (resolved : resolveAll kind enum (ofValues []) before = .ok earlier)
    (exhausted : Exhausted kind (earlier.map Entry.value)) :
    resolveAll kind enum (ofValues []) (before ++ omitted :: after) =
      .error (exhaustion kind enum) := by
  have missing : omitted.resolve kind enum (ofValues (earlier.map Entry.value)) =
      .error (exhaustion kind enum) := by
    rw [resolve_of_omitted stated identifier, next_of_exhausted enum exhausted]
    rfl
  rw [resolve_all_append]
  exact (bind_eq_error_iff _ _ _).2 (.inr ⟨earlier, resolved,
    (bind_eq_error_iff _ _ _).2 (.inl ((bind_eq_error_iff _ _ _).2 (.inl missing)))⟩)

theorem resolve_all_of_left (stated : omitted.value = none)
    (identifier : Text.isIdentifier omitted.name = true)
    (fits : ∀ declaration ∈ before, declaration.Fits) {earlier : List Entry}
    (resolved : resolveAll kind enum (ofValues []) before = .ok earlier)
    (left : ¬ Exhausted kind (earlier.map Entry.value)) :
    ∃ longer, resolveAll kind enum (ofValues []) (before ++ [omitted]) = .ok longer := by
  have within := fits_of_resolve_all fits (by simp) resolved
  rw [List.nil_append] at within
  obtain ⟨value, next, -⟩ := next_of_values enum kind within left
  have single : resolveAll kind enum (ofValues (earlier.map Entry.value)) [omitted] = _ :=
    resolve_all_single _ omitted
  rw [resolve_of_omitted stated identifier, next] at single
  exact ⟨_, resolve_all_append_eq_ok_iff.2 ⟨earlier, _, resolved, single, rfl⟩⟩

theorem exhausted_of_resolve_all {declarations : List EntryDeclaration}
    (fits : ∀ declaration ∈ declarations, declaration.Fits)
    (within : ∀ value ∈ values, Integer.Fits value)
    (failed : resolveAll kind enum (ofValues values) declarations =
      .error (exhaustion kind enum)) :
    ∃ before omitted after earlier, declarations = before ++ omitted :: after ∧
      omitted.value = none ∧ Text.isIdentifier omitted.name = true ∧
        resolveAll kind enum (ofValues values) before = .ok earlier ∧
          Exhausted kind (values ++ earlier.map Entry.value) := by
  induction declarations generalizing values with
  | nil => cases failed
  | cons first rest ih =>
      obtain ⟨firstFits, fits⟩ := List.forall_mem_cons.1 fits
      rcases (bind_eq_error_iff _ _ _).1 failed with failed | ⟨entry, head, failed⟩
      · obtain ⟨stated, identifier, exhausted⟩ := exhausted_of_resolve within failed
        exact ⟨[], first, rest, [], rfl, stated, identifier, rfl, by simpa using exhausted⟩
      · rcases (bind_eq_error_iff _ _ _).1 failed with failed | ⟨_, -, failed⟩
        · rw [← Assigned.of_values_concat] at failed
          have entryFits := (follows_of_resolve firstFits within head).2
          obtain ⟨before, omitted, after, earlier, rfl, stated, identifier, tail, exhausted⟩ :=
            ih fits (List.forall_mem_append.2
              ⟨within, List.forall_mem_singleton.2 entryFits⟩) failed
          refine ⟨first :: before, omitted, after, entry :: earlier, rfl, stated, identifier, ?_,
            by simpa using exhausted⟩
          simp only [resolveAll, head, ← Assigned.of_values_concat]
          change (resolveAll kind enum (ofValues (values ++ [entry.value])) before >>= fun later =>
            pure (entry :: later)) = _
          rw [tail]
          rfl
        · cases failed

end Entries

end EntryDeclaration

namespace EnumDeclaration

open Assigned (ofValues)
open EntryDeclaration (resolveAll resolve_all_append_eq_ok_iff)

structure Numbers (config : Config) (kind : Kind) (declaration : EnumDeclaration) : Prop where
  follows : ∀ definition, declaration.resolve config kind = .ok definition →
    ∀ before omitted after, declaration.entries = before ++ omitted :: after →
      omitted.value = none → ∃ earlier entry later,
        definition.entries = earlier ++ entry :: later ∧ earlier.length = before.length ∧
          Follows kind (earlier.map Entry.value) entry.value
  /-- Among entries that are fine so far, an omitted value fails exactly if none is left. -/
  fails : ∀ before omitted after, declaration.entries = before ++ omitted :: after →
    omitted.value = none → Text.isIdentifier omitted.name = true → ∀ shorter,
      (declaration.withEntries before).resolve config kind = .ok shorter →
        ((∀ longer, (declaration.withEntries (before ++ [omitted])).resolve config kind ≠
          .ok longer) ↔ Exhausted kind shorter.values)
  /-- This is the only way in which the whole enum can be out of values. -/
  exhausts : declaration.resolve config kind = .error (exhaustion kind declaration.name) ↔
    ∃ before omitted after shorter, declaration.entries = before ++ omitted :: after ∧
      omitted.value = none ∧ Text.isIdentifier omitted.name = true ∧
        (declaration.withEntries before).resolve config kind = .ok shorter ∧
          Exhausted kind shorter.values
  stable : ∀ kept appended, declaration.entries = kept ++ appended → ∀ definition,
    declaration.resolve config kind = .ok definition →
      (declaration.withEntries kept).resolve config kind =
        .ok { definition with entries := definition.entries.take kept.length }

def emptyDefinition (kind : Kind) (declaration : EnumDeclaration) (sizeIndex : Nat) :
    Definition where
  name := declaration.name
  kind := kind
  entries := []
  description := declaration.description
  defaultName := declaration.defaultName
  defaultStyle := declaration.defaultStyle
  sizeIndex := sizeIndex

section Numbers

variable {config : Config} {kind : Kind} {declaration : EnumDeclaration} {base : Definition}

/-- Everything but the entries is settled and stands in the base. -/
def SettledAs (config : Config) (kind : Kind) (declaration : EnumDeclaration) (base : Definition) :
    Prop :=
  ∀ entries, (declaration.withEntries entries).resolve config kind =
    (resolveAll kind declaration.name (ofValues []) entries).map fun resolved =>
      { base with entries := resolved }

/-- Whatever else an enum states is settled apart from its entries, and never for want of a value.
-/
theorem settled_or_fails (config : Config) (kind : Kind) (declaration : EnumDeclaration) :
    (∃ base, declaration.SettledAs config kind base) ∨
      ∃ failure, failure ≠ exhaustion kind declaration.name ∧
        ∀ entries, (declaration.withEntries entries).resolve config kind = .error failure := by
  unfold SettledAs resolve
  by_cases identifier : Text.isIdentifier declaration.name = true
  · cases storage : declaration.sizeIndex config kind with
    | error failure =>
        refine .inr ⟨failure, ?_, fun entries => ?_⟩
        · rw [size_index_eq] at storage
          unfold Config.sizeIndexOf at storage
          split at storage
          next => cases storage
          next =>
            obtain rfl := Except.error.inj storage
            cases kind <;> nofun
        · have same : (declaration.withEntries entries).sizeIndex config kind = .error failure :=
            storage
          simp only [withEntries, identifier, if_true]
          exact (bind_eq_error_iff _ _ _).2 (.inl same)
    | ok sizeIndex =>
        refine .inl ⟨emptyDefinition kind declaration sizeIndex, fun entries => ?_⟩
        have same : (declaration.withEntries entries).sizeIndex config kind = .ok sizeIndex :=
          storage
        simp only [withEntries, identifier, if_true] at same ⊢
        rw [same]
        change (resolveAll kind declaration.name (ofValues []) entries >>= fun entries => _) = _
        cases resolveAll kind declaration.name (ofValues []) entries <;> rfl
  · refine .inr ⟨.invalidValue "enum name" declaration.name, ?_, fun entries => if_neg identifier⟩
    cases kind <;> nofun

theorem Fits.part (fits : declaration.Fits) {before after : List EntryDeclaration}
    (split : declaration.entries = before ++ after) : ∀ entry ∈ before, entry.Fits := by
  unfold Fits at fits
  rw [split] at fits
  exact (List.forall_mem_append.1 fits).1

section Settled

variable (settled : declaration.SettledAs config kind base)
include settled

theorem SettledAs.resolve_eq_ok_iff (entries : List EntryDeclaration) (definition : Definition) :
    (declaration.withEntries entries).resolve config kind = .ok definition ↔
      resolveAll kind declaration.name (ofValues []) entries = .ok definition.entries ∧
        { base with entries := definition.entries } = definition := by
  rw [settled]
  cases resolveAll kind declaration.name (ofValues []) entries with
  | error failure => exact ⟨nofun, fun ⟨failed, _⟩ => nomatch failed⟩
  | ok resolved =>
      constructor
      · intro same
        obtain rfl := Except.ok.inj same
        exact ⟨rfl, rfl⟩
      · rintro ⟨same, whole⟩
        obtain rfl := Except.ok.inj same
        exact congrArg Except.ok whole

theorem SettledAs.follows (fits : declaration.Fits) {definition : Definition}
    (resolved : declaration.resolve config kind = .ok definition)
    {before after : List EntryDeclaration} {omitted : EntryDeclaration}
    (split : declaration.entries = before ++ omitted :: after) (stated : omitted.value = none) :
    ∃ earlier entry later, definition.entries = earlier ++ entry :: later ∧
      earlier.length = before.length ∧
        Follows kind (earlier.map Entry.value) entry.value := by
  have run := ((settled.resolve_eq_ok_iff declaration.entries definition).1 resolved).1
  rw [split, resolve_all_append_eq_ok_iff] at run
  obtain ⟨earlier, rest, first, second, parts⟩ := run
  obtain ⟨entry, head, second⟩ := (bind_eq_ok_iff _ _ _).1 second
  obtain ⟨later, -, same⟩ := (bind_eq_ok_iff _ _ _).1 second
  obtain rfl := Except.ok.inj same
  have within := EntryDeclaration.fits_of_resolve_all (fits.part split) (by simp) first
  have omittedFits : omitted.Fits := fits omitted (by simp [split])
  exact ⟨earlier, entry, later, parts,
    (EntryDeclaration.resolves_of_resolve_all first).length_eq.symm,
    (EntryDeclaration.follows_of_resolve omittedFits within head).1 stated⟩

theorem SettledAs.fails_iff (fits : declaration.Fits) {before after : List EntryDeclaration}
    {omitted : EntryDeclaration} (split : declaration.entries = before ++ omitted :: after)
    (stated : omitted.value = none) (identifier : Text.isIdentifier omitted.name = true)
    {shorter : Definition}
    (resolved : (declaration.withEntries before).resolve config kind = .ok shorter) :
    (∀ longer, (declaration.withEntries (before ++ [omitted])).resolve config kind ≠
      .ok longer) ↔ Exhausted kind shorter.values := by
  have first := ((settled.resolve_eq_ok_iff before shorter).1 resolved).1
  constructor
  · intro failed
    by_contra left
    obtain ⟨longer, loaded⟩ := EntryDeclaration.resolve_all_of_left stated identifier
      (fits.part split) first left
    exact failed _ ((settled _).trans (congrArg _ loaded))
  · intro exhausted longer loaded
    have run := ((settled.resolve_eq_ok_iff _ longer).1 loaded).1
    rw [EntryDeclaration.resolve_all_of_exhausted stated identifier first exhausted] at run
    cases run

theorem SettledAs.exhausts_iff (fits : declaration.Fits) :
    declaration.resolve config kind = .error (exhaustion kind declaration.name) ↔
      ∃ before omitted after shorter, declaration.entries = before ++ omitted :: after ∧
        omitted.value = none ∧ Text.isIdentifier omitted.name = true ∧
          (declaration.withEntries before).resolve config kind = .ok shorter ∧
            Exhausted kind shorter.values := by
  have whole := settled declaration.entries
  change declaration.resolve config kind = _ at whole
  rw [whole]
  constructor
  · intro failed
    have run : resolveAll kind declaration.name (ofValues []) declaration.entries =
        .error (exhaustion kind declaration.name) := by
      cases run : resolveAll kind declaration.name (ofValues []) declaration.entries with
      | ok entries => simp [run, Except.map] at failed
      | error failure => simpa [run, Except.map] using failed
    obtain ⟨before, omitted, after, earlier, split, stated, identifier, first, exhausted⟩ :=
      EntryDeclaration.exhausted_of_resolve_all fits (by simp) run
    exact ⟨before, omitted, after, { base with entries := earlier }, split, stated, identifier,
      (settled before).trans (congrArg _ first), exhausted⟩
  · rintro ⟨before, omitted, after, shorter, split, stated, identifier, resolved, exhausted⟩
    have first := ((settled.resolve_eq_ok_iff before shorter).1 resolved).1
    rw [split, EntryDeclaration.resolve_all_of_exhausted stated identifier first exhausted]
    rfl

theorem SettledAs.stable {kept appended : List EntryDeclaration}
    (split : declaration.entries = kept ++ appended) {definition : Definition}
    (resolved : declaration.resolve config kind = .ok definition) :
    (declaration.withEntries kept).resolve config kind =
      .ok { definition with entries := definition.entries.take kept.length } := by
  obtain ⟨run, whole⟩ := (settled.resolve_eq_ok_iff declaration.entries definition).1 resolved
  rw [split, resolve_all_append_eq_ok_iff] at run
  obtain ⟨earlier, later, first, -, parts⟩ := run
  have length := (EntryDeclaration.resolves_of_resolve_all first).length_eq
  rw [settled, first, parts, length, List.take_left, ← whole]
  rfl

end Settled

/-- Every enum numbers its entries in this way, whatever mix of values it states. -/
theorem numbers_entries (config : Config) (kind : Kind) (declaration : EnumDeclaration)
    (fits : declaration.Fits) : declaration.Numbers config kind := by
  rcases settled_or_fails config kind declaration with ⟨base, settled⟩ | ⟨failure, other, fails⟩
  · exact {
      follows := fun _ resolved _ _ _ split stated => settled.follows fits resolved split stated
      fails := fun _ _ _ split stated identifier _ resolved =>
        settled.fails_iff fits split stated identifier resolved
      exhausts := settled.exhausts_iff fits
      stable := fun _ _ split _ resolved => settled.stable split resolved }
  · -- without a name or a storage type nothing is ever resolved
    have whole := fails declaration.entries
    change declaration.resolve config kind = _ at whole
    constructor
    case follows => simp [whole]
    case fails => simp [fails]
    case exhausts => simp [whole, fails, other]
    case stable => simp [whole]

end Numbers

end EnumDeclaration

/-- Flags with zero, a combination, a negative value and a lower bit after a higher one. -/
def mixedFlags : EnumDeclaration where
  name := "Modes"
  entries :=
    [⟨"None", some (.integer 0), ""⟩, ⟨"Read", none, ""⟩, ⟨"Write", none, ""⟩,
      ⟨"Both", some (.numeral "0b1_1"), ""⟩, ⟨"Odd", some (.integer (-8)), ""⟩,
      ⟨"High", some (.integer 64), ""⟩, ⟨"Low", some (.integer 16), ""⟩, ⟨"Next", none, ""⟩]

theorem mixed_flags_numbered :
    mixedFlags.Fits ∧
      (mixedFlags.resolve {} .flags).map Definition.values = .ok [0, 1, 2, 3, -8, 64, 16, 128] ∧
        mixedFlags.Numbers {} .flags := by
  have fits : mixedFlags.Fits := by decide
  exact ⟨fits, by decide +kernel, EnumDeclaration.numbers_entries {} .flags mixedFlags fits⟩

end EnumHeader

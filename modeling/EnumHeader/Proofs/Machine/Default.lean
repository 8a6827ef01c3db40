import EnumHeader.Proofs.Machine.ValueSet
import EnumHeader.Proofs.Model.Extremes

/-!
# Extremes and defaults in machine arithmetic

The searches for extreme entries as loops over positions, which look up the entry found so far, and
the default that is picked through them. A loop over no entries ends at a position that is not there;
that no trap follows is due to the test for entries that stands before it.
-/

namespace EnumHeader.Machine

set_option autoImplicit false

/-- A computation that may be refused, apart from meeting a trap. -/
abbrev Attempt := ExceptT Failure Checked

section Definitions

/-- The better one of the entry found so far and the next one; of equals it is the former. -/
def better (before : Int → Int → Bool) (entries : List Entry) (best : Nat) (next : Entry × Nat) :
    Checked Nat := do
  let current ← itemAt entries best
  return if before next.1.value current.value then next.2 else best

/-- The first entry needs no look at itself. -/
def firstBest (before : Int → Int → Bool) (entries : List Entry) : Checked Nat :=
  (entries.zipIdx.drop 1).foldlM (better before entries) 0

def minIndex (entries : List Entry) : Checked Nat :=
  firstBest (fun value other => value < other) entries

def maxIndex (entries : List Entry) : Checked Nat :=
  firstBest (fun value other => other < value) entries

def extremes (entries : List Entry) : Checked (Nat × Nat) :=
  entries.zipIdx.foldlM (fun best next => do
    let minEntry ← better (fun value other => value < other) entries best.1 next
    let maxEntry ← better (fun value other => other < value) entries best.2 next
    return (minEntry, maxEntry)) (0, 0)

def ensureNonEmpty (entries : List Entry) : Attempt Unit :=
  if entries.isEmpty then throw (.misuse .defaultWithoutEntries) else return ()

def valueDefault (style : DefaultStyle) (entries : List Entry) : Attempt Nat := do
  ensureNonEmpty entries
  match style with
  | .min => liftM (minIndex entries)
  | .max => liftM (maxIndex entries)
  | .first => return 0
  | .last => liftM (subCounts entries.length 1)
  | .zero | .usedBitsSet => throw (.misuse (.styleNeedsFlags style))

def valueAt (entries : List Entry) (index : Nat) : Checked Int := do
  let entry ← itemAt entries index
  return entry.value

def styleMask (style : DefaultStyle) (entries : List Entry) : Checked Int := do
  match style with
  | .zero => return 0
  | .min => valueAt entries (← minIndex entries)
  | .max => valueAt entries (← maxIndex entries)
  | .first => valueAt entries 0
  | .last => valueAt entries (← subCounts entries.length 1)
  | .usedBitsSet =>
      return entries.foldl (fun mask entry => (toWord mask ||| toWord entry.value).toInt) 0

def flagsDefault (style : DefaultStyle) (entries : List Entry) : Attempt Int := do
  ensureNonEmpty entries
  liftM (styleMask style entries)

def resolveDefault (definition : Definition) (config : Config) : Attempt DefaultValue :=
  match definition.defaultName with
  | some name =>
      match definition.entries.findIdx? (·.name = name) with
      | some index => return .entry index
      | none => throw (.violation (.unknownDefault definition.name name))
  | none => do
      let style := definition.effectiveStyle config
      match definition.kind with
      | .value =>
          let index ← valueDefault style definition.entries
          return .entry index
      | .flags =>
          let value ← flagsDefault style definition.entries
          match definition.entries.findIdx? (·.value = value) with
          | some index => return .entry index
          | none => return .raw value

end Definitions

section Attempts

variable {Value Result : Type}

/-- The attempt meets no trap and ends as said. -/
def Yields (attempt : Attempt Value) (outcome : Except Failure Value) : Prop :=
  attempt.run = .ok outcome

theorem yields_bind {attempt : Attempt Value} {outcome : Except Failure Value}
    {next : Value → Attempt Result} {later : Value → Except Failure Result}
    (first : Yields attempt outcome)
    (rest : ∀ value, outcome = .ok value → Yields (next value) (later value)) :
    Yields (attempt >>= next) (outcome >>= later) := by
  unfold Yields at first rest ⊢
  rw [ExceptT.run_bind, first]
  cases outcome with
  | error failure => rfl
  | ok value => exact rest value rfl

theorem yields_of_ok {step : Checked Value} {value : Value} (done : step = .ok value)
    {next : Value → Attempt Result} {outcome : Except Failure Result}
    (rest : Yields (next value) outcome) :
    Yields (liftM step >>= next) outcome := by
  rw [done]
  exact rest

theorem yields_lift {step : Checked Value} {value : Value} (done : step = .ok value) :
    Yields (liftM step) (.ok value) := by
  rw [done]
  rfl

end Attempts

/-- No entry is before the one at that position, which itself is before all that precede it. -/
def IsFirstBest (before : Int → Int → Bool) (entries : List Entry) (best : Nat) (entry : Entry) :
    Prop :=
  ∃ earlier later, entries = earlier ++ entry :: later ∧ earlier.length = best ∧
    (∀ other ∈ earlier, before entry.value other.value = true) ∧
    ∀ other ∈ later, before other.value entry.value = false

structure IsRanking (before : Int → Int → Bool) : Prop where
  irrefl : ∀ value, before value value = false
  trans : ∀ {best value other}, before best value = true → before value other = true →
    before best other = true
  trans_not : ∀ {best value other}, before best value = true → before other value = false →
    before best other = true

theorem is_ranking_less : IsRanking (fun value other => decide (value < other)) where
  irrefl := by simp
  trans := by simp only [decide_eq_true_eq]; omega
  trans_not := by simp only [decide_eq_true_eq, decide_eq_false_iff_not]; omega

theorem is_ranking_greater : IsRanking (fun value other => decide (other < value)) where
  irrefl := by simp
  trans := by simp only [decide_eq_true_eq]; omega
  trans_not := by simp only [decide_eq_true_eq, decide_eq_false_iff_not]; omega

namespace IsFirstBest

variable {before : Int → Int → Bool} {entries : List Entry} {best : Nat} {entry : Entry}

theorem single (before : Int → Int → Bool) (entry : Entry) : IsFirstBest before [entry] 0 entry :=
  ⟨[], [], rfl, rfl, by simp, by simp⟩

theorem found (holds : IsFirstBest before entries best entry) : entries[best]? = some entry := by
  obtain ⟨earlier, later, rfl, rfl, -, -⟩ := holds
  simp

theorem append (ranking : IsRanking before) (holds : IsFirstBest before entries best entry)
    (next : Entry) :
    IsFirstBest before (entries ++ [next])
      (if before next.value entry.value then entries.length else best)
      (if before next.value entry.value then next else entry) := by
  obtain ⟨earlier, later, rfl, rfl, beaten, unbeaten⟩ := holds
  split_ifs with better
  · refine ⟨earlier ++ entry :: later, [], rfl, rfl, ?_, by simp⟩
    intro other member
    rcases List.mem_append.1 member with before | after
    · exact ranking.trans better (beaten other before)
    · rcases List.mem_cons.1 after with rfl | after
      · exact better
      · exact ranking.trans_not better (unbeaten other after)
  · refine ⟨earlier, later ++ [next], by simp, rfl, beaten, ?_⟩
    intro other member
    rcases List.mem_append.1 member with within | last
    · exact unbeaten other within
    · rw [List.mem_singleton.1 last]
      simpa using better

theorem not_before (ranking : IsRanking before) (holds : IsFirstBest before entries best entry) :
    ∀ other ∈ entries, before other.value entry.value = false := by
  obtain ⟨earlier, later, rfl, -, beaten, unbeaten⟩ := holds
  intro other member
  rcases List.mem_append.1 member with first | rest
  · -- an entry that came before and was beaten cannot be before the best one
    by_contra back
    have cycle := ranking.trans (by simpa using back) (beaten other first)
    rw [ranking.irrefl] at cycle
    cases cycle
  · rcases List.mem_cons.1 rest with rfl | after
    · exact ranking.irrefl other.value
    · exact unbeaten other after

theorem idx_of (ranking : IsRanking before) (holds : IsFirstBest before entries best entry) :
    (entries.map Entry.value).idxOf entry.value = best := by
  obtain ⟨earlier, later, rfl, rfl, beaten, -⟩ := holds
  have absent : entry.value ∉ earlier.map Entry.value := by
    intro member
    obtain ⟨other, within, same⟩ := List.mem_map.1 member
    have loop := beaten other within
    rw [same, ranking.irrefl] at loop
    cases loop
  rw [List.map_append, List.map_cons, List.idxOf_append_of_notMem absent, List.idxOf_cons_self,
    List.length_map, Nat.add_zero]

theorem min_eq (holds : IsFirstBest (fun value other => value < other) entries best entry) :
    (entries.map Entry.value).min? = some entry.value := by
  have least := holds.not_before is_ranking_less
  refine ValueSet.min_eq_some_iff.2 ⟨List.mem_map_of_mem (List.mem_of_getElem? holds.found), ?_⟩
  intro value member
  obtain ⟨other, declared, rfl⟩ := List.mem_map.1 member
  simpa using least other declared

theorem max_eq (holds : IsFirstBest (fun value other => other < value) entries best entry) :
    (entries.map Entry.value).max? = some entry.value := by
  have greatest := holds.not_before is_ranking_greater
  refine ValueSet.max_eq_some_iff.2 ⟨List.mem_map_of_mem (List.mem_of_getElem? holds.found), ?_⟩
  intro value member
  obtain ⟨other, declared, rfl⟩ := List.mem_map.1 member
  simpa using greatest other declared

theorem min_index (holds : IsFirstBest (fun value other => value < other) entries best entry) :
    EnumHeader.minIndex (entries.map Entry.value) = best := by
  rw [EnumHeader.minIndex, holds.min_eq, Option.getD_some, holds.idx_of is_ranking_less]

theorem max_index (holds : IsFirstBest (fun value other => other < value) entries best entry) :
    EnumHeader.maxIndex (entries.map Entry.value) = best := by
  rw [EnumHeader.maxIndex, holds.max_eq, Option.getD_some, holds.idx_of is_ranking_greater]

end IsFirstBest

section Loops

variable {before : Int → Int → Bool} {entries : List Entry}

theorem better_of_found {best : Nat} {entry : Entry} (found : entries[best]? = some entry)
    (next : Entry × Nat) :
    better before entries best next =
      .ok (if before next.1.value entry.value then next.2 else best) := by
  rw [better, Outcome.bind_of_ok (item_at_of_found found)]
  rfl

/-- A loop that has the first best of the entries done so far ends with the first best of all. -/
theorem fold_better (ranking : IsRanking before) (done rest : List Entry) {best : Nat}
    {entry : Entry} (holds : IsFirstBest before done best entry) :
    ∃ last final, (rest.zipIdx done.length).foldlM (better before (done ++ rest)) best = .ok last ∧
      IsFirstBest before (done ++ rest) last final := by
  induction rest generalizing done best entry with
  | nil => exact ⟨best, entry, rfl, by rwa [List.append_nil]⟩
  | cons next rest ih =>
      have inside : best < done.length := (List.getElem?_eq_some_iff.1 holds.found).1
      have found : (done ++ next :: rest)[best]? = some entry := by
        rw [List.getElem?_append_left inside, holds.found]
      have all : done ++ next :: rest = (done ++ [next]) ++ rest := by simp
      have count : (done ++ [next]).length = done.length + 1 := by simp
      obtain ⟨last, final, ends, first⟩ := ih (done ++ [next]) (holds.append ranking next)
      rw [count, ← all] at ends
      rw [← all] at first
      refine ⟨last, final, ?_, first⟩
      rw [List.zipIdx_cons, List.foldlM_cons, Outcome.bind_of_ok (better_of_found found _)]
      exact ends

theorem first_best_eq (ranking : IsRanking before) (nonempty : entries ≠ []) :
    ∃ best entry, firstBest before entries = .ok best ∧ IsFirstBest before entries best entry := by
  cases entries with
  | nil => exact absurd rfl nonempty
  | cons first rest => exact fold_better ranking [first] rest (.single before first)

/-- A pass over all entries only compares the first one with itself before it goes on. -/
theorem fold_all_eq (ranking : IsRanking before) (nonempty : entries ≠ []) :
    entries.zipIdx.foldlM (better before entries) 0 = firstBest before entries := by
  cases entries with
  | nil => exact absurd rfl nonempty
  | cons first rest =>
      have found : (first :: rest)[0]? = some first := rfl
      have kept : better before (first :: rest) 0 (first, 0) = .ok 0 := by
        rw [better_of_found found, ranking.irrefl]
        rfl
      rw [firstBest, List.zipIdx_cons, List.foldlM_cons, Outcome.bind_of_ok kept]
      rfl

theorem fold_pair {Item State Other : Type} {step : State → Item → Checked State}
    {other : Other → Item → Checked Other} (items : List Item) {start last : State}
    {start' last' : Other} (first : items.foldlM step start = .ok last)
    (second : items.foldlM other start' = .ok last') :
    items.foldlM (fun state item => do
      let left ← step state.1 item
      let right ← other state.2 item
      return (left, right)) (start, start') = .ok (last, last') := by
  induction items generalizing start start' with
  | nil =>
      obtain rfl := Except.ok.inj first
      obtain rfl := Except.ok.inj second
      rfl
  | cons item rest ih =>
      rw [List.foldlM_cons] at first second
      obtain ⟨left, stepped, first⟩ := (Outcome.bind_eq_ok_iff _ _ _).1 first
      obtain ⟨right, stepped', second⟩ := (Outcome.bind_eq_ok_iff _ _ _).1 second
      simp only [List.foldlM_cons, stepped, stepped']
      exact ih first second

theorem extremes_eq (nonempty : entries ≠ []) :
    ∃ min max least greatest, extremes entries = .ok (min, max) ∧
      IsFirstBest (fun value other => value < other) entries min least ∧
      IsFirstBest (fun value other => other < value) entries max greatest := by
  obtain ⟨min, least, minEnds, isMin⟩ := first_best_eq is_ranking_less nonempty
  obtain ⟨max, greatest, maxEnds, isMax⟩ := first_best_eq is_ranking_greater nonempty
  refine ⟨min, max, least, greatest, ?_, isMin, isMax⟩
  apply fold_pair
  · rw [fold_all_eq is_ranking_less nonempty, minEnds]
  · rw [fold_all_eq is_ranking_greater nonempty, maxEnds]

end Loops

section Defaults

variable {entries : List Entry}

theorem ensure_non_empty_of_nonempty (nonempty : entries ≠ []) : ensureNonEmpty entries = pure () := by
  rw [ensureNonEmpty, if_neg (by simpa using nonempty)]

theorem sub_length_of_nonempty (nonempty : entries ≠ []) :
    subCounts entries.length 1 = .ok (entries.length - 1) :=
  sub_counts_of_le (List.length_pos_iff.2 nonempty)

theorem value_default_yields (style : DefaultStyle) (entries : List Entry) :
    Yields (valueDefault style entries)
      (EnumHeader.valueDefault style (entries.map Entry.value)) := by
  by_cases nonempty : entries = []
  · rw [nonempty]
    rfl
  · have filled : (entries.map Entry.value).isEmpty = false := by simpa using nonempty
    unfold valueDefault EnumHeader.valueDefault
    rw [ensure_non_empty_of_nonempty nonempty, pure_bind, filled]
    cases style with
    | min =>
        obtain ⟨best, entry, ends, least⟩ := first_best_eq is_ranking_less nonempty
        simp only [least.min_index]
        exact yields_lift ends
    | max =>
        obtain ⟨best, entry, ends, greatest⟩ := first_best_eq is_ranking_greater nonempty
        simp only [greatest.max_index]
        exact yields_lift ends
    | last =>
        simp only [List.length_map]
        exact yields_lift (sub_length_of_nonempty nonempty)
    | first | zero | usedBitsSet => rfl

theorem value_at_of_found {index : Nat} {entry : Entry} (found : entries[index]? = some entry) :
    valueAt entries index = .ok entry.value := by
  rw [valueAt, Outcome.bind_of_ok (item_at_of_found found)]
  rfl

/-- The union of the bits is the same whether it is kept as a word or as a signed value. -/
theorem fold_signed (entries : List Entry) (mask : Word) :
    entries.foldl (fun mask entry => (toWord mask ||| toWord entry.value).toInt) mask.toInt =
      ((entries.map Entry.value).foldl (fun mask value => mask ||| toWord value) mask).toInt := by
  induction entries generalizing mask with
  | nil => rfl
  | cons entry rest ih =>
      rw [List.foldl_cons, to_word_to_int, ih, List.map_cons, List.foldl_cons]

theorem signed_used_bits (entries : List Entry) :
    entries.foldl (fun mask entry => (toWord mask ||| toWord entry.value).toInt) 0 =
      Integer.ofPattern (ValueSet.usedBits (entries.map Entry.value)) := by
  rw [← to_nat_used_bits, ← to_int_eq_of_pattern]
  exact fold_signed entries 0

theorem flags_default_yields (style : DefaultStyle) (entries : List Entry) :
    Yields (flagsDefault style entries)
      (EnumHeader.flagsDefault style (entries.map Entry.value)) := by
  by_cases nonempty : entries = []
  · rw [nonempty]
    rfl
  · have filled : (entries.map Entry.value).isEmpty = false := by simpa using nonempty
    unfold flagsDefault EnumHeader.flagsDefault
    rw [ensure_non_empty_of_nonempty nonempty, pure_bind, filled]
    cases style with
    | min =>
        obtain ⟨best, entry, ends, least⟩ := first_best_eq is_ranking_less nonempty
        simp only [least.min_eq, Option.getD_some]
        apply yields_lift
        rw [styleMask, minIndex, Outcome.bind_of_ok ends, value_at_of_found least.found]
    | max =>
        obtain ⟨best, entry, ends, greatest⟩ := first_best_eq is_ranking_greater nonempty
        simp only [greatest.max_eq, Option.getD_some]
        apply yields_lift
        rw [styleMask, maxIndex, Outcome.bind_of_ok ends, value_at_of_found greatest.found]
    | first =>
        cases entries with
        | nil => exact absurd rfl nonempty
        | cons first rest => rfl
    | last =>
        obtain ⟨entry, last⟩ := Option.ne_none_iff_exists'.1 (mt List.getLast?_eq_none_iff.1 nonempty)
        have found : entries[entries.length - 1]? = some entry := by
          rw [← List.getLast?_eq_getElem?, last]
        simp only [List.getLast?_map, last, Option.map_some, Option.getD_some]
        apply yields_lift
        rw [styleMask, Outcome.bind_of_ok (sub_length_of_nonempty nonempty), value_at_of_found found]
    | usedBitsSet =>
        apply yields_lift
        rw [styleMask, signed_used_bits]
        rfl
    | zero => rfl

theorem resolve_default_yields (config : Config) (definition : Definition) :
    Yields (resolveDefault definition config) (definition.resolveDefault config) := by
  unfold resolveDefault Definition.resolveDefault
  cases named : definition.defaultName with
  | some name =>
      simp only [Definition.indexOf?]
      cases definition.entries.findIdx? (·.name = name) <;> rfl
  | none =>
      cases kind : definition.kind with
      | value =>
          apply yields_bind (value_default_yields _ definition.entries)
          intro index picked
          rfl
      | flags =>
          apply yields_bind (flags_default_yields _ definition.entries)
          intro value picked
          rw [Definition.values, List.findIdx?_map]
          simp only [Function.comp_def]
          cases definition.entries.findIdx? (·.value = value) <;> rfl

end Defaults

end EnumHeader.Machine

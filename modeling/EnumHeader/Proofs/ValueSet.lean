import EnumHeader.ValueSet
import Mathlib.Data.List.Nodup
import Mathlib.Order.Bounds.Basic
import Mathlib.Tactic.Linarith

/-!
# Distinct values, runs and blocks of bits

The list of distinct values ascends strictly, so its ends are the extremes of the set. A run holds
everything between its ends. The used bits are those that some value sets, and an odd mask whose
bits form one block is one less than a power of two.
-/

namespace EnumHeader.ValueSet

set_option autoImplicit false

theorem ascending_insert {value : Int} {values : List Int} (ascending : values.Pairwise (· < ·)) :
    (insert value values).Pairwise (· < ·) := by
  induction values with
  | nil => simp [insert]
  | cons first rest ih =>
      have firstBelow := (List.pairwise_cons.1 ascending).1
      have restAscending := (List.pairwise_cons.1 ascending).2
      unfold insert
      split
      next below =>
        refine List.pairwise_cons.2 ⟨?_, ascending⟩
        intro other member
        cases List.mem_cons.1 member with
        | inl same => exact same ▸ below
        | inr later => exact below.trans (firstBelow other later)
      next notBelow =>
        split
        next same => exact ascending
        next different =>
          refine List.pairwise_cons.2 ⟨?_, ih restAscending⟩
          intro other member
          cases mem_insert.1 member with
          | inl same => omega
          | inr later => exact firstBelow other later

theorem ascending_of_list (values : List Int) : (ofList values).Pairwise (· < ·) := by
  induction values with
  | nil => simp [ofList]
  | cons first rest ih => exact ascending_insert ih

/-- The distinct values depend on the set of the values only, not on their order and number. -/
theorem of_list_congr {values others : List Int}
    (same : ∀ value, value ∈ values ↔ value ∈ others) : ofList values = ofList others := by
  have first := ascending_of_list values
  have second := ascending_of_list others
  have members : (ofList values).Perm (ofList others) := by
    refine (List.perm_ext_iff_of_nodup (first.imp ne_of_lt) (second.imp ne_of_lt)).2 ?_
    intro value
    rw [mem_of_list_iff, mem_of_list_iff, same]
  exact members.eq_of_pairwise (fun _ _ _ _ below above => absurd below above.asymm) first second

theorem ascending_split {values : List Int} (ascending : values.Pairwise (· < ·)) {index : Nat}
    (inside : index < values.length) :
    (∀ value ∈ values.take index, value < values[index]) ∧
      ∀ value ∈ values.drop index, values[index] ≤ value := by
  have parts := ascending
  rw [← List.take_append_drop index values, List.drop_eq_getElem_cons inside] at parts
  rcases List.pairwise_append.1 parts with ⟨-, later, across⟩
  rw [List.pairwise_cons] at later
  constructor
  · intro value member
    exact across value member _ List.mem_cons_self
  · rw [List.drop_eq_getElem_cons inside, List.forall_mem_cons]
    exact ⟨le_rfl, fun value member => (later.1 value member).le⟩

/-- In an ascending list, the search finds just what the list holds. -/
theorem search_iff {values : List Int} (ascending : values.Pairwise (· < ·)) (sought : Int) :
    search values sought = true ↔ sought ∈ values := by
  induction values using search.induct sought with
  | case1 values several half inside below ih =>
      have after : sought ∉ values.drop (values.length - half) := by
        intro member
        have shift : values.length - half = half + (values.length - half - half) := by omega
        rw [shift, ← List.drop_drop] at member
        have above := (ascending_split ascending inside).2 sought (List.mem_of_mem_drop member)
        exact absurd below above.not_gt
      unfold search
      rw [dif_pos several, if_pos below, ih (ascending.sublist (List.take_sublist _ _))]
      constructor
      · exact List.mem_of_mem_take
      · intro member
        rw [← List.take_append_drop (values.length - half) values, List.mem_append] at member
        exact member.resolve_right after
  | case2 values several half inside above ih =>
      have before : sought ∉ values.take half := by
        intro member
        exact above ((ascending_split ascending inside).1 sought member)
      unfold search
      rw [dif_pos several, if_neg above, ih (ascending.sublist (List.drop_sublist _ _))]
      constructor
      · exact List.mem_of_mem_drop
      · intro member
        rw [← List.take_append_drop half values, List.mem_append] at member
        exact member.resolve_left before
  | case3 values few =>
      unfold search
      rw [dif_neg few]
      match values with
      | [] => simp
      | [only] =>
          rw [beq_iff_eq, List.head?_cons, Option.some_inj, List.mem_singleton]
          exact eq_comm
      | first :: second :: rest => exact absurd (Nat.le_add_left 2 rest.length) few

theorem search_eq_contains {values : List Int} (ascending : values.Pairwise (· < ·))
    (sought : Int) : search values sought = values.contains sought := by
  rw [Bool.eq_iff_iff, search_iff ascending, List.contains_iff_mem]

theorem min_eq_some_iff {values : List Int} {min : Int} :
    values.min? = some min ↔ IsLeast {value | value ∈ values} min :=
  List.min?_eq_some_iff

theorem max_eq_some_iff {values : List Int} {max : Int} :
    values.max? = some max ↔ IsGreatest {value | value ∈ values} max :=
  List.max?_eq_some_iff

theorem exists_extremes {values : List Int} (nonempty : values ≠ []) :
    ∃ min max, values.min? = some min ∧ values.max? = some max ∧
      IsLeast {value | value ∈ values} min ∧ IsGreatest {value | value ∈ values} max := by
  obtain ⟨min, least⟩ := Option.ne_none_iff_exists'.1 (mt List.min?_eq_none_iff.1 nonempty)
  obtain ⟨max, greatest⟩ := Option.ne_none_iff_exists'.1 (mt List.max?_eq_none_iff.1 nonempty)
  exact ⟨min, max, least, greatest, min_eq_some_iff.1 least, max_eq_some_iff.1 greatest⟩

theorem exists_ends {values : List Int} (nonempty : values ≠ []) :
    ∃ first last, values.head? = some first ∧ values.getLast? = some last := by
  obtain ⟨first, head⟩ := Option.ne_none_iff_exists'.1 (mt List.head?_eq_none_iff.1 nonempty)
  obtain ⟨last, tail⟩ := Option.ne_none_iff_exists'.1 (mt List.getLast?_eq_none_iff.1 nonempty)
  exact ⟨first, last, head, tail⟩

theorem extremes_congr {values others : List Int}
    (same : ∀ value, value ∈ values ↔ value ∈ others) :
    values.min? = others.min? ∧ values.max? = others.max? := by
  have members : {value | value ∈ values} = {value | value ∈ others} := Set.ext same
  by_cases none : values = []
  · have none' : others = [] := by
      rw [List.eq_nil_iff_forall_not_mem]
      intro value member
      rw [← same, none] at member
      cases member
    rw [none, none']
    exact ⟨rfl, rfl⟩
  · have some' : others ≠ [] := by
      obtain ⟨value, member⟩ := List.exists_mem_of_ne_nil _ none
      exact List.ne_nil_of_mem ((same value).1 member)
    obtain ⟨min, max, least, greatest, isLeast, isGreatest⟩ := exists_extremes none
    obtain ⟨min', max', least', greatest', isLeast', isGreatest'⟩ := exists_extremes some'
    rw [members] at isLeast isGreatest
    rw [least, least', greatest, greatest', isLeast.unique isLeast', isGreatest.unique isGreatest']
    exact ⟨rfl, rfl⟩

theorem length_of_list_eq_one_iff (values : List Int) :
    (ofList values).length = 1 ↔ ∃ value, ∀ other, other ∈ values ↔ other = value := by
  constructor
  · intro single
    obtain ⟨value, only⟩ := List.length_eq_one_iff.1 single
    refine ⟨value, fun other => ?_⟩
    rw [← mem_of_list_iff, only, List.mem_singleton]
  · rintro ⟨value, same⟩
    have ascending := ascending_of_list values
    have members : ∀ other, other ∈ ofList values ↔ other = value :=
      fun other => mem_of_list_iff.trans (same other)
    cases distinct : ofList values with
    | nil =>
        rw [distinct] at members
        exact absurd ((members value).2 rfl) List.not_mem_nil
    | cons first rest =>
        cases rest with
        | nil => rfl
        | cons second others =>
            -- a second value would be larger than the first, and both are the same
            rw [distinct] at members ascending
            have below : first < second := (List.pairwise_cons.1 ascending).1 second (by simp)
            have firstSame := (members first).1 (by simp)
            have secondSame := (members second).1 (by simp)
            omega

theorem head_le {values : List Int} (ascending : values.Pairwise (· < ·)) {min : Int}
    (head : values.head? = some min) : ∀ value ∈ values, min ≤ value := by
  obtain ⟨rest, rfl⟩ := List.head?_eq_some_iff.1 head
  intro value member
  cases List.mem_cons.1 member with
  | inl same => exact same.ge
  | inr later => exact ((List.pairwise_cons.1 ascending).1 value later).le

theorem le_last {values : List Int} (ascending : values.Pairwise (· < ·)) {max : Int}
    (last : values.getLast? = some max) : ∀ value ∈ values, value ≤ max := by
  obtain ⟨before, rfl⟩ := List.getLast?_eq_some_iff.1 last
  intro value member
  cases List.mem_append.1 member with
  | inl earlier =>
      exact ((List.pairwise_append.1 ascending).2.2 value earlier max (by simp)).le
  | inr same => exact (List.mem_singleton.1 same).le

theorem mem_of_is_run {values : List Int} (run : isRun values = true) {min max value : Int}
    (head : values.head? = some min) (last : values.getLast? = some max)
    (above : min ≤ value) (below : value ≤ max) : value ∈ values := by
  induction values generalizing min with
  | nil => simp at head
  | cons first rest ih =>
      have first_eq : first = min := by simpa using head
      cases rest with
      | nil =>
          have last_eq : first = max := by simpa using last
          have same : value = first := by omega
          simp [same]
      | cons second rest =>
          simp only [isRun, Bool.and_eq_true, beq_iff_eq] at run
          -- The second value is the successor of the first, so nothing lies between the two.
          by_cases same : value = first
          · simp [same]
          · have head : (second :: rest).head? = some second := rfl
            have later := ih run.2 head (by simpa using last) (by omega)
            exact List.mem_cons_of_mem first later

theorem mem_run_iff {values : List Int} (ascending : values.Pairwise (· < ·))
    (run : isRun values = true) {min max : Int} (head : values.head? = some min)
    (last : values.getLast? = some max) (value : Int) :
    value ∈ values ↔ min ≤ value ∧ value ≤ max := by
  constructor
  · intro member
    exact ⟨head_le ascending head value member, le_last ascending last value member⟩
  · rintro ⟨above, below⟩
    exact mem_of_is_run run head last above below

/-- Conversely, ascending values without a gap between their ends are a run. -/
theorem is_run_of_mem {values : List Int} (ascending : values.Pairwise (· < ·)) {min max : Int}
    (head : values.head? = some min) (last : values.getLast? = some max)
    (filled : ∀ value, min ≤ value → value ≤ max → value ∈ values) : isRun values = true := by
  induction values generalizing min with
  | nil => rfl
  | cons first rest ih =>
      have first_eq : first = min := by simpa using head
      cases rest with
      | nil => rfl
      | cons second rest =>
          obtain ⟨below, later⟩ := List.pairwise_cons.1 ascending
          have secondAbove := below second List.mem_cons_self
          have secondLast : (second :: rest).getLast? = some max := by simpa using last
          have secondBelow := le_last later secondLast second List.mem_cons_self
          -- the successor of the first value is listed, and nothing before the second can be it
          have next : first + 1 ∈ second :: rest := by
            have listed := filled (first + 1) (by omega) (by omega)
            exact (List.mem_cons.1 listed).resolve_left (by omega)
          have nearest := head_le later rfl (first + 1) next
          have step : second - first = 1 := by omega
          have tail : isRun (second :: rest) = true := by
            apply ih later rfl secondLast
            intro value above under
            exact (List.mem_cons.1 (filled value (by omega) under)).resolve_left (by omega)
          simp only [isRun, step, tail, BEq.rfl, Bool.and_self]

theorem run_up_to_iff {values : List Int} (ascending : values.Pairwise (· < ·)) (max : Int) :
    (2 ≤ values.length ∧ isRun values = true ∧ values.getLast? = some max) ↔
      ∃ min < max, ∀ value, value ∈ values ↔ min ≤ value ∧ value ≤ max := by
  constructor
  · rintro ⟨several, run, last⟩
    match values, several with
    | first :: second :: rest, _ =>
        have above := (List.pairwise_cons.1 ascending).1 second List.mem_cons_self
        have below := le_last ascending last second (by simp)
        exact ⟨first, by omega, mem_run_iff ascending run rfl last⟩
  · rintro ⟨min, below, members⟩
    have minMember : min ∈ values := (members min).2 (by omega)
    have maxMember : max ∈ values := (members max).2 (by omega)
    have nonempty : values ≠ [] := List.ne_nil_of_mem minMember
    obtain ⟨first, final, head, last⟩ := exists_ends nonempty
    have firstSame : first = min := by
      have inside := (members first).1 (List.mem_of_head? head)
      have lower := head_le ascending head min minMember
      omega
    have finalSame : final = max := by
      have inside := (members final).1 (List.mem_of_getLast? last)
      have upper := le_last ascending last max maxMember
      omega
    refine ⟨?_, is_run_of_mem ascending head last ?_, finalSame ▸ last⟩
    · match values, nonempty with
      | [only], _ =>
          have minSame : min = only := by simpa using minMember
          have maxSame : max = only := by simpa using maxMember
          omega
      | _ :: _ :: _, _ => simp
    · intro value above under
      exact (members value).2 (by omega)

theorem test_bit_fold (values : List Int) (mask position : Nat) :
    (values.foldl (fun mask value => mask ||| Integer.pattern value) mask).testBit position = true ↔
      mask.testBit position = true ∨
        ∃ value ∈ values, (Integer.pattern value).testBit position = true := by
  induction values generalizing mask with
  | nil => simp
  | cons first rest ih =>
      rw [List.foldl_cons, ih]
      simp [or_assoc]

theorem test_bit_used_bits (values : List Int) (position : Nat) :
    (usedBits values).testBit position = true ↔
      ∃ value ∈ values, (Integer.pattern value).testBit position = true := by
  simp [usedBits, test_bit_fold]

theorem used_bits_of_list (values : List Int) : usedBits (ofList values) = usedBits values := by
  apply Nat.eq_of_testBit_eq
  intro position
  rw [Bool.eq_iff_iff, test_bit_used_bits, test_bit_used_bits]
  simp only [mem_of_list_iff]

theorem used_bits_lt {values : List Int} {width : Nat}
    (bounded : ∀ value ∈ values, Integer.pattern value < 2 ^ width) :
    usedBits values < 2 ^ width := by
  apply Nat.lt_pow_two_of_testBit
  intro position high
  by_contra set
  obtain ⟨value, member, set⟩ :=
    (test_bit_used_bits values position).1 (by simpa using set)
  have power : 2 ^ width ≤ 2 ^ position := Nat.pow_le_pow_right (by omega) high
  have small := bounded value member
  rw [Nat.testBit_lt_two_pow (by omega)] at set
  cases set

theorem odd_part_of_odd {n : Nat} (odd : n % 2 = 1) : oddPart n = n := by
  unfold oddPart
  rw [if_neg (by omega), if_neg (by omega)]

/-- The zeros below the lowest set bit are those that the odd part is without. -/
theorem odd_part_eq_shift {n lowest : Nat} (set : n.testBit lowest = true)
    (clear : ∀ position < lowest, n.testBit position = false) : oddPart n = n >>> lowest := by
  induction lowest generalizing n with
  | zero => exact odd_part_of_odd (by simpa using set)
  | succ lowest ih =>
      have even : n % 2 = 0 := by simpa using clear 0 (Nat.succ_pos lowest)
      have half : oddPart (n / 2) = (n / 2) >>> lowest := by
        apply ih
        · rwa [← Nat.testBit_add_one]
        · intro position below
          rw [← Nat.testBit_add_one]
          exact clear (position + 1) (Nat.succ_lt_succ below)
      unfold oddPart
      rw [if_pos even, half, Nat.shiftRight_succ_inside]
      split_ifs with zero
      · rw [zero, Nat.zero_div, Nat.zero_shiftRight]
      · rfl

theorem low_block_eq {mask : Nat} (block : isBlock mask = true) (odd : mask % 2 = 1) :
    ∃ height, mask = 2 ^ height - 1 := by
  have disjoint : (mask + 1) &&& (mask + 1 - 1) = 0 := by
    rw [isBlock, odd_part_of_odd odd, beq_iff_eq] at block
    rw [Nat.add_sub_cancel, Nat.and_comm]
    exact block
  obtain ⟨height, power⟩ := (Nat.and_sub_one_eq_zero_iff_isPowerOfTwo (by omega)).1 disjoint
  exact ⟨height, by omega⟩

theorem low_bits_iff (n height : Nat) :
    (∀ position, n.testBit position = true → (2 ^ height - 1).testBit position = true) ↔
      n ≤ 2 ^ height - 1 := by
  have power : 0 < 2 ^ height := Nat.two_pow_pos height
  constructor
  · intro inside
    have small : n < 2 ^ height := by
      apply Nat.lt_pow_two_of_testBit
      intro position high
      by_contra set
      have low := inside position (by simpa using set)
      simp only [Nat.testBit_two_pow_sub_one, decide_eq_true_eq] at low
      omega
    omega
  · intro small position set
    simp only [Nat.testBit_two_pow_sub_one, decide_eq_true_eq]
    by_contra high
    have larger : 2 ^ height ≤ 2 ^ position := Nat.pow_le_pow_right (by omega) (by omega)
    rw [Nat.testBit_lt_two_pow (by omega)] at set
    cases set

theorem full_mask_iff {mask width : Nat} (small : mask < 2 ^ width) :
    mask = 2 ^ width - 1 ↔ ∀ position < width, mask.testBit position = true := by
  constructor
  · rintro rfl position low
    simpa using low
  · intro set
    apply Nat.eq_of_testBit_eq
    intro position
    rw [Nat.testBit_two_pow_sub_one]
    by_cases low : position < width
    · simp [set position low, low]
    · have power : 2 ^ width ≤ 2 ^ position := Nat.pow_le_pow_right (by omega) (by omega)
      rw [Nat.testBit_lt_two_pow (by omega)]
      simpa using low

theorem or_eq_mask_iff (n mask : Nat) :
    n ||| mask = mask ↔
      ∀ position, n.testBit position = true → mask.testBit position = true := by
  constructor
  · intro same position set
    rw [← same, Nat.testBit_or, set, Bool.true_or]
  · intro inside
    apply Nat.eq_of_testBit_eq
    intro position
    rw [Nat.testBit_or]
    cases set : n.testBit position with
    | false => simp
    | true => simp [inside position set]

end EnumHeader.ValueSet

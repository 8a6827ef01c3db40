import EnumHeader.Validation

/-!
# The earliest offence in a list

A fault that is reported by position: an item offends given the items before it, and no item before
it does. The searches of the validator, by a test, by a fault and by repetition, all find the
earliest offence in this sense. Nothing here depends on what counts as an offence.
-/

namespace EnumHeader.Validation

set_option autoImplicit false

variable {Item Other : Type}

/-- The item offends, given the items before it, and is the first one of the list that does. -/
def Earliest (offends : List Item → Item → Prop) (items : List Item) (item : Item) : Prop :=
  ∃ before after, items = before ++ item :: after ∧ offends before item ∧
    ∀ earlier other between, before = earlier ++ other :: between → ¬offends earlier other

theorem not_earliest_nil (offends : List Item → Item → Prop) (item : Item) :
    ¬Earliest offends [] item := by
  rintro ⟨before, after, split, _⟩
  simp at split

theorem earliest_cons_iff (offends : List Item → Item → Prop) (head item : Item)
    (rest : List Item) :
    Earliest offends (head :: rest) item ↔
      (item = head ∧ offends [] head) ∨
        (¬offends [] head ∧
          Earliest (fun earlier other => offends (head :: earlier) other) rest item) := by
  constructor
  · rintro ⟨before, after, split, offence, clean⟩
    cases before with
    | nil =>
        obtain ⟨rfl, rfl⟩ := List.cons.inj split
        exact Or.inl ⟨rfl, offence⟩
    | cons first before =>
        obtain ⟨rfl, rfl⟩ := List.cons.inj split
        refine Or.inr ⟨clean [] head before rfl, before, after, rfl, offence, ?_⟩
        intro earlier other between same
        exact clean (head :: earlier) other between (by rw [same]; rfl)
  · rintro (⟨rfl, offence⟩ | ⟨headClean, before, after, rfl, offence, clean⟩)
    · exact ⟨[], rest, rfl, offence, by simp⟩
    · refine ⟨head :: before, after, rfl, offence, ?_⟩
      intro earlier other between same
      cases earlier with
      | nil =>
          obtain ⟨rfl, _⟩ := List.cons.inj same
          exact headClean
      | cons first earlier =>
          obtain ⟨rfl, rfl⟩ := List.cons.inj same
          exact clean earlier other between rfl

theorem earliest_congr {offends offends' : List Item → Item → Prop} {items : List Item} {item : Item}
    (same : ∀ before other, other ∈ items → (offends before other ↔ offends' before other)) :
    Earliest offends items item ↔ Earliest offends' items item := by
  unfold Earliest
  refine exists_congr fun before => exists_congr fun after => and_congr_right fun split => ?_
  subst split
  refine and_congr (same before item (by simp)) ?_
  refine forall_congr' fun earlier => forall_congr' fun other => forall_congr' fun between => ?_
  refine imp_congr_right fun split => not_congr ?_
  subst split
  exact same earlier other (by simp)

theorem find_eq_some_iff_earliest (test : Item → Bool) (items : List Item) (item : Item) :
    items.find? test = some item ↔ Earliest (fun _ other => test other = true) items item := by
  induction items with
  | nil => simp [not_earliest_nil]
  | cons head rest ih =>
      rw [earliest_cons_iff]
      cases passes : test head with
      | true =>
          simp only [List.find?_cons_of_pos passes, Option.some.injEq, and_true, not_true, false_and,
            or_false]
          exact eq_comm
      | false => simpa [passes] using ih

/-- A search by a partial function finds the earliest item at which the function is defined. -/
theorem find_some_eq_some_iff_earliest (fault : Item → Option Other) (items : List Item)
    (found : Other) :
    items.findSome? fault = some found ↔
      ∃ item, Earliest (fun _ other => fault other ≠ none) items item ∧ fault item = some found := by
  induction items with
  | nil => simp [not_earliest_nil]
  | cons head rest ih =>
      simp only [earliest_cons_iff]
      cases value : fault head with
      | none => simpa [value] using ih
      | some result => simp [value]

theorem earliest_map_iff (f : Item → Other) (offends : List Other → Other → Prop)
    (items : List Item) (image : Other) :
    Earliest offends (items.map f) image ↔
      ∃ item, Earliest (fun before other => offends (before.map f) (f other)) items item ∧
        f item = image := by
  induction items generalizing offends with
  | nil => simp [not_earliest_nil]
  | cons head rest ih =>
      simp only [List.map_cons, earliest_cons_iff, ih, List.map_nil]
      constructor
      · rintro (⟨rfl, offence⟩ | ⟨clean, item, found, rfl⟩)
        · exact ⟨head, Or.inl ⟨rfl, offence⟩, rfl⟩
        · exact ⟨item, Or.inr ⟨clean, found⟩, rfl⟩
      · rintro ⟨item, ⟨rfl, offence⟩ | ⟨clean, found⟩, rfl⟩
        · exact Or.inl ⟨rfl, offence⟩
        · exact Or.inr ⟨clean, item, found, rfl⟩

theorem first_repeated_eq_none_iff (seen names : List String) :
    firstRepeated seen names = none ↔ names.Nodup ∧ ∀ name ∈ names, name ∉ seen := by
  induction names generalizing seen with
  | nil => simp [firstRepeated]
  | cons head rest ih =>
      unfold firstRepeated
      split
      next old => simp_all
      next new =>
        rw [ih]
        simp only [List.nodup_cons, List.mem_cons, List.contains_iff_mem] at new ⊢
        grind

theorem first_repeated_eq_some_iff (seen names : List String) (name : String) :
    firstRepeated seen names = some name ↔
      Earliest (fun before other => other ∈ seen ∨ other ∈ before) names name := by
  induction names generalizing seen with
  | nil => simp [firstRepeated, not_earliest_nil]
  | cons head rest ih =>
      rw [earliest_cons_iff]
      unfold firstRepeated
      split
      next old =>
        have member : head ∈ seen := by simpa using old
        simp [member, eq_comm]
      next new =>
        have absent : head ∉ seen := by simpa using new
        have offences : (fun before other => other ∈ head :: seen ∨ other ∈ before) =
            fun before other => other ∈ seen ∨ other ∈ head :: before := by
          funext before other
          simp only [List.mem_cons, eq_iff_iff]
          grind
        rw [ih, offences]
        simp [absent]

theorem first_repeated_eq_none_iff_nodup (names : List String) :
    firstRepeated [] names = none ↔ names.Nodup := by
  simp [first_repeated_eq_none_iff]

theorem first_repeated_map_eq_some_iff (nameOf : Item → String) (items : List Item)
    (name : String) :
    firstRepeated [] (items.map nameOf) = some name ↔
      ∃ item, Earliest (fun before other => nameOf other ∈ before.map nameOf) items item ∧
        nameOf item = name := by
  rw [first_repeated_eq_some_iff, earliest_map_iff]
  simp only [List.not_mem_nil, false_or]

theorem first_repeated_value_eq_none_iff (seen entries : List Entry) :
    firstRepeatedValue seen entries = none ↔
      (entries.map Entry.value).Nodup ∧
        ∀ entry ∈ entries, entry.value ∉ seen.map Entry.value := by
  induction entries generalizing seen with
  | nil => simp [firstRepeatedValue]
  | cons head rest ih =>
      unfold firstRepeatedValue
      split
      next first found =>
        have member := List.mem_of_find?_eq_some found
        have same : first.value = head.value := by simpa using List.find?_some found
        have repeated : head.value ∈ seen.map Entry.value := List.mem_map.2 ⟨first, member, same⟩
        simp only [reduceCtorEq, false_iff]
        rintro ⟨_, fresh⟩
        exact fresh head (by simp) repeated
      next absent =>
        rw [ih]
        simp only [List.find?_eq_none, decide_eq_true_eq] at absent
        simp only [List.map_cons, List.nodup_cons, List.map_append, List.map_nil, List.mem_append,
          List.mem_cons, List.mem_map, forall_eq_or_imp]
        grind

/-- The first repeated value is the earliest that an entry before it has; with it comes the earliest
entry of that value. -/
theorem first_repeated_value_eq_some_iff (seen entries : List Entry) (entry first : Entry) :
    firstRepeatedValue seen entries = some (entry, first) ↔
      Earliest (fun before other => other.value ∈ (seen ++ before).map Entry.value) entries entry ∧
        Earliest (fun _ other => other.value = entry.value) (seen ++ entries) first := by
  induction entries generalizing seen with
  | nil => simp [firstRepeatedValue, not_earliest_nil]
  | cons head rest ih =>
      have earliestFirst (items : List Entry) (value : Int) :
          Earliest (fun _ other => other.value = value) items first ↔
            items.find? (fun other => other.value = value) = some first := by
        simp [find_eq_some_iff_earliest]
      rw [earliest_cons_iff]
      unfold firstRepeatedValue
      split
      next earlier found =>
        have member := List.mem_of_find?_eq_some found
        have same : earlier.value = head.value := by simpa using List.find?_some found
        have repeated : head.value ∈ (seen ++ []).map Entry.value := by
          rw [List.append_nil]
          exact List.mem_map.2 ⟨earlier, member, same⟩
        simp only [repeated, not_true, false_and, or_false, and_true, Option.some.injEq,
          Prod.mk.injEq, earliestFirst]
        constructor
        · rintro ⟨rfl, rfl⟩
          exact ⟨rfl, by rw [List.find?_append, found]; rfl⟩
        · rintro ⟨rfl, search⟩
          rw [List.find?_append, found] at search
          exact ⟨rfl, by simpa using search⟩
      next absent =>
        have fresh : head.value ∉ (seen ++ []).map Entry.value := by
          rw [List.append_nil, List.mem_map]
          rintro ⟨other, member, same⟩
          exact List.find?_eq_none.1 absent other member (by simpa using same)
        rw [ih]
        simp only [fresh, and_false, not_false_eq_true, true_and, false_or, List.append_assoc,
          List.singleton_append]

end EnumHeader.Validation

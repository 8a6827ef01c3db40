import EnumHeader.Cpp.Wrapper
import EnumHeader.Proofs.Cpp.Nesting.Steps
import EnumHeader.Proofs.Model.Canonical

/-!
# Members with harmless names

The names of a model and of a configuration, the literals of its values and the bodies of its
lookups and checks, as far as they open and close anything, and the kinds of member functions that
generated structs are made of.
-/

namespace EnumHeader.Cpp.Nesting

set_option autoImplicit false

open Depth (flat)

structure ModelNames (model : Model) : Prop where
  own : Harmless model.name
  stored : Harmless model.sizeType.typeName
  entries : ∀ entry ∈ model.definition.entries, Harmless entry.name

section Names

variable {model : Model}

theorem ModelNames.entry_at (names : ModelNames model) (index : Nat) :
    Harmless (model.entryAt index).name :=
  Model.name_at_of_entries (.literal rfl) names.entries index

theorem ModelNames.canonical (names : ModelNames model) :
    ∀ entry ∈ model.canonicalEntries, Harmless entry.name :=
  fun entry member => names.entries entry (Model.mem_of_canonical member)

theorem ModelNames.entry_names (names : ModelNames model) :
    ∀ name ∈ model.definition.entryNames, Harmless name := by
  intro name member
  obtain ⟨entry, inside, rfl⟩ := List.mem_map.1 member
  exact names.entries entry inside

end Names

section Literals

theorem harmless_suffix (suffix : Suffix) : Harmless suffix.text := by
  cases suffix <;> exact .literal rfl

theorem harmless_of_decimal (value : Int) (suffix : Suffix) :
    Harmless (Literal.decimal value suffix).text :=
  (harmless_decimal value).append (harmless_suffix suffix)

theorem harmless_of_negated (magnitude : Nat) (suffix : Suffix) :
    Harmless (Literal.negatedLessOne magnitude suffix).text :=
  .append (.append (.append (.literal rfl) (harmless_number magnitude)) (harmless_suffix suffix))
    (.literal rfl)

theorem harmless_of_hexadecimal (value : Nat) (suffix : Suffix) :
    Harmless (Literal.hexadecimal value suffix).text :=
  .append (.append (.literal rfl) (harmless_hex value)) (harmless_suffix suffix)

theorem harmless_of_halves (bits : Nat) {typeName : String} (typed : Harmless typeName) :
    Harmless (Literal.ofHalves bits typeName).text :=
  .append (.append (.append (.append (.append (.append (.append (.append (.literal rfl) typed)
    (.literal rfl)) (harmless_hex _)) (.literal rfl)) typed) (.literal rfl)) (harmless_hex _))
    (.literal rfl)

theorem harmless_of_int (value : Int) {typeName : String} (typed : Harmless typeName) :
    Harmless (Literal.ofInt value typeName).text := by
  unfold Literal.ofInt
  split_ifs
  · exact harmless_of_negated _ _
  · exact harmless_of_decimal value _
  · exact harmless_of_decimal value _
  · exact harmless_of_negated _ _
  · exact harmless_of_decimal value _
  · exact harmless_of_decimal value _
  · exact harmless_of_halves _ typed

theorem harmless_of_mask (mask : Nat) {typeName : String} (typed : Harmless typeName) :
    Harmless (Literal.ofMask mask typeName).text := by
  unfold Literal.ofMask
  split_ifs
  · exact harmless_of_hexadecimal mask _
  · exact harmless_of_hexadecimal mask _
  · exact harmless_of_halves mask typed

theorem harmless_underlying : Harmless Literal.underlying :=
  .literal rfl

theorem harmless_of_value (kind : Kind) (value : Int) :
    Harmless (Literal.ofValue kind value).text := by
  cases kind with
  | value => exact harmless_of_int value harmless_underlying
  | flags => exact harmless_of_mask _ harmless_underlying

end Literals

section Members

variable {config : Config} {model : Model}

def AllTame (members : List Member) : Prop :=
  ∀ member ∈ members, IsTameMember member

theorem all_tame_append {first second : List Member} :
    AllTame (first ++ second) ↔ AllTame first ∧ AllTame second :=
  List.forall_mem_append

theorem all_tame_cons {member : Member} {rest : List Member} :
    AllTame (member :: rest) ↔ IsTameMember member ∧ AllTame rest :=
  List.forall_mem_cons

theorem all_tame_nil : AllTame [] :=
  nofun

theorem tame_method {content : Method} (led : Harmless content.lead)
    (named : Harmless content.name) (taken : Harmless content.parameters)
    (trailed : Harmless content.trail) (inside : StepsLevel content.body) :
    IsTameMember (.method content) := by
  have signed : Harmless content.signature := by
    unfold Method.signature
    exact .append (.append (.append (.append (.append (.append led (.literal rfl)) named)
      (.literal rfl)) taken) (.literal rfl)) trailed
  exact ⟨signed, inside⟩

theorem line_level {text : String} (harmless : Harmless text) : StepsLevel [.line text] :=
  .line (line_of_harmless harmless)

section Shapes

variable {resultType name parameters signature text owner op : String} {body : List Step}

theorem tame_query (names : ConfigNames config) (typed : Harmless resultType)
    (named : Harmless name) (given : Harmless text) :
    IsTameMember (Wrapper.query config resultType name text) :=
  tame_method (.append (.append names.nodiscard (.literal rfl)) typed) named (.literal rfl)
    (.literal rfl) (line_level (.append (.append (.literal rfl) given) (.literal rfl)))

theorem tame_static_method (names : ConfigNames config) (typed : Harmless resultType)
    (named : Harmless name) (taken : Harmless parameters) (inside : StepsLevel body) :
    IsTameMember (Wrapper.staticMethod config resultType name parameters body) :=
  tame_method (.append (.append names.nodiscard (.literal rfl)) typed) named taken (.literal rfl)
    inside

theorem tame_reader (names : ConfigNames config) (typed : Harmless resultType)
    (named : Harmless name) (taken : Harmless parameters) (inside : StepsLevel body) :
    IsTameMember (Wrapper.reader config resultType name parameters body) :=
  tame_method (.append (.append names.nodiscard (.literal rfl)) typed) named taken (.literal rfl)
    inside

theorem tame_modifier (named : Harmless name) (taken : Harmless parameters)
    (stated : Harmless text) : IsTameMember (Wrapper.modifier name parameters text) :=
  tame_method (.literal rfl) named taken (.literal rfl) (line_level stated)

theorem tame_friend (signed : Harmless signature) (stated : Harmless text) :
    IsTameMember (Wrapper.friendFunction signature text) :=
  ⟨.append (.append (.literal rfl) signed) (.literal rfl), line_level stated⟩

theorem tame_constructor (own : Harmless model.name) (taken : Harmless parameters)
    (initial : Harmless text) : IsTameMember (Wrapper.constructorOf model parameters text) :=
  line_of_ending (.append (.append (.append (.append (.append (.literal rfl) own) (.literal rfl))
    taken) (.literal rfl)) initial) (by decide) (by decide) (by decide)

end Shapes

section Bodies

theorem guard_level (kind : Kind) (validity : Validity) :
    StepsLevel (Guard.ofValidity kind validity).steps := by
  have value := harmless_of_value kind
  have mask (bits : Nat) := harmless_of_mask bits harmless_underlying
  cases validity with
  | singleValue bound =>
      exact line_level (.append (.append (.literal rfl) (value bound)) (.literal rfl))
  | always => exact line_level (.literal rfl)
  | upperBound bound =>
      exact line_level (.append (.append (.literal rfl) (value bound)) (.literal rfl))
  | lowerBound bound =>
      exact line_level (.append (.append (.literal rfl) (value bound)) (.literal rfl))
  | range min max =>
      exact line_level (.append (.append (.append (.append (.literal rfl) (value min))
        (.literal rfl)) (value max)) (.literal rfl))
  | scan values =>
      exact StepsRun.opening (.literal rfl) (.opening (.literal rfl) (.line (.literal rfl)
        (.closing line_closing (.closing line_closing (.line (.literal rfl) (.nil flat))))))
  | flagsLowMask bits =>
      exact line_level (.append (.append (.literal rfl) (mask bits)) (.literal rfl))
  | flagsMask bits =>
      exact line_level (.append (.append (.append (.append (.literal rfl) (mask bits))
        (.literal rfl)) (mask bits)) (.literal rfl))

theorem harmless_view (stringType : StringType) : Harmless (viewType stringType) := by
  cases stringType <;> exact .literal rfl

theorem harmless_label (kind : Kind) {entry : String} (named : Harmless entry) :
    Harmless (caseLabel kind entry) := by
  cases kind with
  | value => exact .append (.literal rfl) named
  | flags => exact .append (.append (.literal rfl) named) (.literal rfl)

theorem result_level (lookup : Lookup) (arm : Arm) : StepsLevel [lookup.result arm] :=
  .line (line_of_literal lookup.stringType arm.text rfl (by decide) (.literal rfl) (.literal rfl))

theorem lookup_level (lookup : Lookup) (named : ∀ arm ∈ lookup.arms, Harmless arm.entry) :
    StepsLevel lookup.steps := by
  have label {arm : Arm} (inside : arm ∈ lookup.arms) :
      Harmless (caseLabel lookup.kind arm.entry) := harmless_label _ (named arm inside)
  unfold Lookup.steps
  refine .append ?_ (line_level (.append (.append (.literal rfl) (harmless_view _)) (.literal rfl)))
  split
  next arm only =>
    have header := label (by simp [only] : arm ∈ lookup.arms)
    refine .block (line_of_harmless ?_) (result_level lookup arm) line_closing
    exact .append (.append (.literal rfl) header) (.literal rfl)
  next =>
    refine .block (line_of_harmless (.literal rfl)) (.flat_map fun arm inside => ?_) line_closing
    have text : Harmless ("case " ++ caseLabel lookup.kind arm.entry ++ ":") :=
      .append (.append (.literal rfl) (label inside)) (.literal rfl)
    exact StepsRun.line text (result_level lookup arm)

/-- The braces of a row stand around the string literal and the constant. -/
theorem line_of_row (table : NameTable) {name : String} (named : Harmless name) :
    IsLine (table.row name) flat flat := by
  have separator : Harmless ", Value::" := .literal rfl
  have chars : (table.row name).toList = ['\x7b', ' '] ++
      (stringLiteral table.stringType name).toList ++ ", Value::".toList ++ name.toList ++
        [' ', '\x7d', ','] := by
    simp [NameTable.row]
  have opened : Leads ['\x7b', ' '] 0 1 := leads_of_scan (by decide)
  have closed : Leads [' ', '\x7d', ','] 1 0 := leads_of_scan (by decide)
  apply IsLine.of_text
  · rw [chars]
    intro inside
    simp only [List.mem_append] at inside
    rcases inside with (((start | literal) | between) | own) | last
    · exact absurd start (by decide)
    · exact newline_not_mem_literal _ _ literal
    · exact separator.single between
    · exact named.single own
    · exact absurd last (by decide)
  · rw [chars]
    exact conditional_of_start (by decide) (by decide)
  · rw [chars]
    exact (((opened.append (leads_of_literal _ _ 1)).append (separator.leads 1)).append
      (named.leads 1)).append closed

theorem search_level (table : NameTable) (own : Harmless table.owner)
    (named : ∀ name ∈ table.names, Harmless name) : StepsLevel table.searchSteps := by
  unfold NameTable.searchSteps
  refine .append ?_ (line_level (.literal rfl))
  split
  next name only =>
    have entry := named name (by simp [only])
    refine .block (line_of_literal _ _ rfl (by decide) (.literal rfl) (.literal rfl))
      (line_level ?_) line_closing
    exact .append (.append (.append (.append (.literal rfl) own) (.literal rfl)) entry)
      (.literal rfl)
  next =>
    have returned : Harmless ("return " ++ table.owner ++ "(entry.value);") :=
      .append (.append (.literal rfl) own) (.literal rfl)
    exact StepsRun.opening (.literal rfl) (.opening (.literal rfl) (.line returned
      (.closing line_closing (.closing line_closing (.nil flat)))))

end Bodies

end Members

end EnumHeader.Cpp.Nesting

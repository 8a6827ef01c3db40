import EnumHeader.Proofs.Cpp.Preprocessing.Inclusion

/-!
# Headers of several namespaces

A version macro is the namespace of the shared templates in capitals, and then what names the block.
None of these endings is the end of another, so two headers have a macro in common exactly if it is
for the same block and their namespaces are the same up to the case of letters. Headers whose
namespaces differ in more than that keep all their blocks when they are included together; of two
namespaces that differ in case alone, the later one loses the blocks that the earlier one has.
-/

namespace EnumHeader

set_option autoImplicit false

namespace Text

def EqualButCase (first second : String) : Prop :=
  first.toList.map Char.toLower = second.toList.map Char.toLower

instance (first second : String) : Decidable (EqualButCase first second) :=
  inferInstanceAs (Decidable (_ = _))

variable {text other : List Char}

theorem upper_of_parts (parts : ∀ c ∈ text, isNamePart c = true) :
    upper text = text.map Char.toUpper := by
  rw [List.map_eq_flatMap]
  exact List.flatMap_congr fun c inside => capital_of_name_part (parts c inside)

theorem map_lower_upper (parts : ∀ c ∈ text, isNamePart c = true) :
    (text.map Char.toUpper).map Char.toLower = text.map Char.toLower := by
  rw [List.map_map]
  refine List.map_congr_left fun c inside => ?_
  apply of_each_name_part (motive := fun c => (Char.toLower ∘ Char.toUpper) c = c.toLower)
  · decide
  · exact parts c inside

theorem map_upper_lower (parts : ∀ c ∈ text, isNamePart c = true) :
    (text.map Char.toLower).map Char.toUpper = text.map Char.toUpper := by
  rw [List.map_map]
  refine List.map_congr_left fun c inside => ?_
  apply of_each_name_part (motive := fun c => (Char.toUpper ∘ Char.toLower) c = c.toUpper)
  · decide
  · exact parts c inside

theorem upper_eq_iff {first second : String} (firstNamed : isIdentifier first = true)
    (secondNamed : isIdentifier second = true) :
    upper first.toList = upper second.toList ↔ EqualButCase first second := by
  have parts := parts_of_identifier firstNamed
  have otherParts := parts_of_identifier secondNamed
  rw [upper_of_parts parts, upper_of_parts otherParts, EqualButCase]
  constructor
  · intro same
    rw [← map_lower_upper parts, same, map_lower_upper otherParts]
  · intro same
    rw [← map_upper_lower parts, same, map_upper_lower otherParts]

end Text

namespace Cpp.Preprocessing

open Cpp.Runtime (BlockName versionMacro)
open Header (linesOf)
open Text (EqualButCase)

section Macros

variable {first second : Config} {block other : BlockName}

theorem prefix_eq_iff (checked : first.check = .ok ()) (checkedToo : second.check = .ok ()) :
    first.macroPrefix = second.macroPrefix ↔
      EqualButCase first.runtimeNamespace second.runtimeNamespace := by
  have named : Text.isIdentifier first.runtimeNamespace = true :=
    (Config.given_names_of_check checked).runtime
  have namedToo : Text.isIdentifier second.runtimeNamespace = true :=
    (Config.given_names_of_check checkedToo).runtime
  rw [← Text.upper_eq_iff named namedToo, Config.macroPrefix, Config.macroPrefix,
    String.ofList_inj]

theorem suffixes_end_apart : ∀ suffix ∈ suffixes block, ∀ ending ∈ suffixes other,
    suffix.toList <:+ ending.toList → suffix = ending := by
  cases block <;> cases other <;> decide

/-- Wherever the prefix ends, the name of a macro shows what follows it. -/
theorem macro_eq_iff {suffix ending : String} (listed : suffix ∈ suffixes block)
    (listedThere : ending ∈ suffixes other) :
    first.macroPrefix ++ suffix = second.macroPrefix ++ ending ↔
      suffix = ending ∧ first.macroPrefix = second.macroPrefix := by
  constructor
  · intro same
    have ends : suffix.toList <:+ (first.macroPrefix ++ suffix).toList := by simp
    have endsThere : ending.toList <:+ (first.macroPrefix ++ suffix).toList := by
      rw [same]
      simp
    obtain rfl : suffix = ending :=
      (List.suffix_or_suffix_of_suffix ends endsThere).elim
        (suffixes_end_apart suffix listed ending listedThere)
        fun within => (suffixes_end_apart ending listedThere suffix listed within).symm
    exact ⟨rfl, by simpa using same⟩
  · rintro ⟨rfl, same⟩
    rw [same]

theorem version_macro_eq_iff (checked : first.check = .ok ()) (checkedToo : second.check = .ok ()) :
    versionMacro first block = versionMacro second other ↔
      block = other ∧ EqualButCase first.runtimeNamespace second.runtimeNamespace := by
  have named : versionSuffix block = versionSuffix other ↔ block = other := by
    cases block <;> cases other <;> decide
  rw [version_macro_eq, version_macro_eq,
    macro_eq_iff (version_listed block) (version_listed other), named,
    prefix_eq_iff checked checkedToo]

end Macros

section Tables

variable {compiler : Compiler} {config other : Config} {macros : List Macro}
  {seen included : List BlockName}

theorem Knows.of_alike (same : other.macroPrefix = config.macroPrefix)
    (knows : Knows config seen macros) : Knows other seen macros where
  known block member := by
    have found := knows.known block member
    rwa [version_macro_eq, ← same, ← version_macro_eq] at found
  fresh block new suffix listed := by
    rw [same]
    exact knows.fresh block new suffix listed

theorem Knows.beside (apart : config.macroPrefix ≠ other.macroPrefix)
    (knows : Knows other seen macros) :
    Knows other seen (tableOf compiler config macros included) where
  known block member := by
    rw [find_in_table, knows.known block member]
    intro next _ suffix listed same
    rw [version_macro_eq, macro_eq_iff listed (version_listed block)] at same
    exact apart same.2
  fresh block new suffix listed inside := by
    rw [names_of_table, List.mem_append, List.mem_map] at inside
    rcases inside with ⟨ending, came, same⟩ | early
    · obtain ⟨next, -, listedThere⟩ := List.mem_flatMap.1 came
      exact apart ((macro_eq_iff listedThere listed).1 same).2
    · exact knows.fresh block new suffix listed early

end Tables

section Headers

/-- The blocks that earlier headers have brought under the namespace of a header, up to the case of
letters. -/
def brought (earlier : List Config) (config : Config) : List BlockName :=
  (earlier.filter fun other =>
    EqualButCase other.runtimeNamespace config.runtimeNamespace).flatMap Runtime.blocks

variable (compiler : Compiler) {configs done : List Config} {macros : List Macro}

theorem knows_after_header {config next : Config} (checked : config.check = .ok ())
    (nextChecked : next.check = .ok ()) (knows : Knows config (brought done config) macros)
    (nextKnows : Knows next (brought done next) macros) :
    Knows next (brought (done ++ [config]) next)
      (tableOf compiler config macros (newBlocks (brought done config) config).reverse) := by
  by_cases equal : EqualButCase config.runtimeNamespace next.runtimeNamespace
  · have samePrefix := (prefix_eq_iff checked nextChecked).2 equal
    have sameBrought : brought done next = brought done config := by
      unfold brought
      refine congrArg (·.flatMap Runtime.blocks) (List.filter_congr fun other _ => ?_)
      exact decide_eq_decide.2
        ⟨fun alike => alike.trans equal.symm, fun alike => alike.trans equal⟩
    have more : brought (done ++ [config]) next = brought done config ++ Runtime.blocks config := by
      rw [← sameBrought]
      simp [brought, equal]
    rw [more]
    exact (knows.after_header compiler).of_alike samePrefix.symm
  · have same : brought (done ++ [config]) next = brought done next := by
      simp [brought, equal]
    rw [same]
    exact nextKnows.beside fun samePrefix =>
      equal ((prefix_eq_iff checked nextChecked).1 samePrefix)

theorem include_namespaces (checked : ∀ config ∈ configs, config.check = .ok ())
    (knows : ∀ config ∈ configs, Knows config (brought done config) macros) :
    ∃ after kept, includeAll compiler macros (configs.map templates) = some (after, kept) ∧
      ∀ position, kept[position]? = configs[position]?.map fun config =>
        linesOf (sourceOf config
          (keptPieces compiler (brought (done ++ configs.take position) config) config)) := by
  -- by induction on the headers, each of which joins those that are done
  induction configs generalizing done macros with
  | nil => exact ⟨macros, [], rfl, fun _ => rfl⟩
  | cons config rest ih =>
      simp only [List.forall_mem_cons] at checked knows
      have processed := process_header compiler checked.1 knows.1
      obtain ⟨after, others, included, lines⟩ := ih checked.2 fun next member =>
        knows_after_header compiler checked.1 (checked.2 next member) knows.1
          (knows.2 next member)
      refine ⟨after, _ :: others, include_all_cons processed included, ?_⟩
      intro position
      cases position with
      | zero => simp
      | succ position => simpa using lines position

end Headers

structure SharedByNamespace (compiler : Compiler) (configs : List Config)
    (kept : List (List (List Char))) : Prop where
  /-- Two version macros are the same for one block of namespaces that are the same up to the case of
  letters, and for nothing else. -/
  macros : ∀ first ∈ configs, ∀ second ∈ configs,
    ∀ block ∈ Runtime.blocks first, ∀ other ∈ Runtime.blocks second,
      versionMacro first block = versionMacro second other ↔
        block = other ∧ EqualButCase first.runtimeNamespace second.runtimeNamespace
  /-- A header loses the blocks that earlier ones of such a namespace have. -/
  lines : ∀ position, kept[position]? = configs[position]?.map fun config =>
    linesOf (sourceOf config
      (keptPieces compiler (brought (configs.take position) config) config))
  /-- Without such a header before it, a header keeps all of its blocks. -/
  whole : ∀ position config, configs[position]? = some config →
    (∀ earlier ∈ configs.take position,
      ¬EqualButCase earlier.runtimeNamespace config.runtimeNamespace) →
    kept[position]? = some (linesOf (sourceOf config (keptPieces compiler [] config)))

/-- Headers of any namespaces can be included together, but one whose namespace differs from an
earlier one in the case of letters alone goes without what that one has. -/
theorem headers_included_by_namespace (compiler : Compiler) {configs : List Config}
    {start : List Macro} (checked : ∀ config ∈ configs, config.check = .ok ())
    (free : ∀ config ∈ configs, IsFree config start) :
    ∃ after kept, includeAll compiler start (configs.map templates) = some (after, kept) ∧
      SharedByNamespace compiler configs kept := by
  have knows : ∀ config ∈ configs, Knows config (brought [] config) start :=
    fun config member => .of_free (free config member)
  obtain ⟨after, kept, included, lines⟩ := include_namespaces compiler checked knows
  refine ⟨after, kept, included, ?_, lines, ?_⟩
  · intro first member second memberToo block _ other _
    exact version_macro_eq_iff (checked first member) (checked second memberToo)
  · intro position config found apart
    have none : brought (configs.take position) config = [] := by
      have unlike : (configs.take position).filter (fun other =>
          EqualButCase other.runtimeNamespace config.runtimeNamespace) = [] :=
        List.filter_eq_nil_iff.2 fun earlier member => by simpa using apart earlier member
      rw [brought, unlike, List.flatMap_nil]
    rw [lines, found, Option.map_some, List.nil_append, none]

/-- Namespaces of which the second starts as the first does, and the third is the first in capitals. -/
def manyNamespaces : List Config :=
  [{ runtimeNamespace := "rt", bitfieldMacros := false }, { runtimeNamespace := "rt_pack" },
    { runtimeNamespace := "RT" }]

theorem many_namespaces_included :
    (∀ config ∈ manyNamespaces, config.check = .ok ()) ∧
      (∀ config ∈ manyNamespaces, IsFree config [macroOf "NDEBUG" "" "1"]) ∧
      ∃ after kept, includeAll ⟨true, (· == "nodiscard")⟩ [macroOf "NDEBUG" "" "1"]
          (manyNamespaces.map templates) = some (after, kept) ∧
        kept[1]? = some (linesOf (sourceOf { runtimeNamespace := "rt_pack" }
          (keptPieces ⟨true, (· == "nodiscard")⟩ [] { runtimeNamespace := "rt_pack" }))) ∧
        kept[2]? = some (linesOf (sourceOf { runtimeNamespace := "RT" }
          (keptPieces ⟨true, (· == "nodiscard")⟩
            [.requiredMacros, .baseTemplates, .templateExtensions]
            { runtimeNamespace := "RT" }))) := by
  have checked : ∀ config ∈ manyNamespaces, config.check = .ok () := by decide +kernel
  have free : ∀ config ∈ manyNamespaces, IsFree config [macroOf "NDEBUG" "" "1"] := by
    decide +kernel
  obtain ⟨after, kept, included, shared⟩ :=
    headers_included_by_namespace ⟨true, (· == "nodiscard")⟩ checked free
  exact ⟨checked, free, after, kept, included, shared.whole 1 _ rfl (by decide), shared.lines 2⟩

/-- Of two namespaces that differ in case, the second keeps its check of a version that nothing
declares, and none of its blocks. -/
theorem capitals_lose_blocks :
    ({ runtimeNamespace := "rt" } : Config).check = .ok () ∧
      ({ runtimeNamespace := "RT" } : Config).check = .ok () ∧ "rt" ≠ "RT" ∧
      (∀ block, versionMacro { runtimeNamespace := "rt" } block =
        versionMacro { runtimeNamespace := "RT" } block) ∧
      ∃ after kept, includeAll ⟨true, (· == "nodiscard")⟩ []
          ([{ runtimeNamespace := "rt" }, { runtimeNamespace := "RT" }].map templates) =
            some (after, kept) ∧
        kept[1]? = some (["", "", "", "", "static_assert(::RT::runtime_version == 1, " ++
          "\"generated header and runtime blocks disagree\");", ""].map String.toList) := by
  have checked : ∀ config ∈ [({ runtimeNamespace := "rt" } : Config), { runtimeNamespace := "RT" }],
      config.check = .ok () := by decide +kernel
  have knows : ∀ config ∈ [({ runtimeNamespace := "rt" } : Config), { runtimeNamespace := "RT" }],
      Knows config (brought [] config) [] := fun _ _ => .of_free nofun
  obtain ⟨after, kept, included, lines⟩ :=
    include_namespaces ⟨true, (· == "nodiscard")⟩ checked knows
  refine ⟨checked _ (by simp), checked _ (by simp), by decide, fun block => ?_, after, kept,
    included, ?_⟩
  · cases block <;> decide +kernel
  · rw [lines 1]
    decide +kernel

end Cpp.Preprocessing

end EnumHeader

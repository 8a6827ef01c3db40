import EnumHeader.Proofs.Cpp.Preprocessing.Versioned
import Mathlib.Data.List.Count
import Mathlib.Data.List.Nodup

/-!
# The macros of included blocks

Between two blocks nothing matters but the table of macros. It holds the macros of each block that
came so far, each once, before those that were there at the start, and a further block adds its own
exactly if it is new.
-/

namespace EnumHeader.Cpp.Preprocessing

set_option autoImplicit false

open Cpp.Runtime (BlockName versionMacro)

def IsFree (config : Config) (start : List Macro) : Prop :=
  ∀ known ∈ start, ¬ (config.macroPrefix ++ "_").toList <+: known.name.toList

instance (config : Config) (start : List Macro) : Decidable (IsFree config start) :=
  inferInstanceAs (Decidable (∀ known ∈ start, _))

section Tables

variable (compiler : Compiler) (config : Config) (start : List Macro)

def tableOf (included : List BlockName) : List Macro :=
  included.flatMap (fun block => definitions (keptBlock compiler config block)) ++ start

variable {compiler config start} {included : List BlockName} {block : BlockName} {suffix : String}

/-- The names of macros depend on the configuration through one namespace alone. -/
theorem table_of_shared {other : Config}
    (shared : other.runtimeNamespace = config.runtimeNamespace) :
    tableOf compiler other start included = tableOf compiler config start included := by
  have same (block : BlockName) : definitions (keptBlock compiler other block) =
      definitions (keptBlock compiler config block) := by
    obtain ⟨⟩ := other
    obtain ⟨⟩ := config
    subst shared
    cases block <;> rfl
  simp only [tableOf, same]

theorem names_of_blocks :
    (included.flatMap fun block => definitions (keptBlock compiler config block)).map Macro.name =
      (included.flatMap suffixes).map (config.macroPrefix ++ ·) := by
  simp only [List.map_flatMap, names_of_block]

theorem names_of_table : (tableOf compiler config start included).map Macro.name =
    (included.flatMap suffixes).map (config.macroPrefix ++ ·) ++ start.map Macro.name := by
  rw [tableOf, List.map_append, names_of_blocks]

theorem suffixes_differ {first second : BlockName} (other : first ≠ second) :
    ∀ suffix ∈ suffixes first, suffix ∉ suffixes second := by
  revert other
  cases first <;> cases second <;> decide

theorem nodup_suffixes (nodup : included.Nodup) : (included.flatMap suffixes).Nodup := by
  have own (block : BlockName) : (suffixes block).Nodup := by cases block <;> decide
  exact List.nodup_flatMap.2
    ⟨fun block _ => own block, nodup.imp fun other suffix left right =>
      suffixes_differ other suffix left right⟩

theorem suffix_listed_iff (listed : suffix ∈ suffixes block) :
    suffix ∈ included.flatMap suffixes ↔ block ∈ included := by
  constructor
  · intro inside
    obtain ⟨other, member, listedThere⟩ := List.mem_flatMap.1 inside
    by_cases same : other = block
    · exact same ▸ member
    · exact (suffixes_differ same suffix listedThere listed).elim
  · intro member
    exact List.mem_flatMap.2 ⟨block, member, listed⟩

theorem not_at_start (free : IsFree config start) (listed : suffix ∈ suffixes block) :
    config.macroPrefix ++ suffix ∉ start.map Macro.name := by
  have marked : ∀ block, ∀ suffix ∈ suffixes block, suffix.toList.head? = some '_' := by
    intro block
    cases block <;> decide
  intro member
  obtain ⟨known, inside, named⟩ := List.mem_map.1 member
  obtain ⟨rest, chars⟩ := List.head?_eq_some_iff.1 (marked block suffix listed)
  refine free known inside ?_
  rw [named, String.toList_append, String.toList_append, chars]
  exact ⟨rest, by simp⟩

theorem named_in_table_iff (absent : config.macroPrefix ++ suffix ∉ start.map Macro.name)
    (listed : suffix ∈ suffixes block) :
    config.macroPrefix ++ suffix ∈ (tableOf compiler config start included).map Macro.name ↔
      block ∈ included := by
  rw [names_of_table, List.mem_append, or_iff_left absent, ← suffix_listed_iff listed]
  simp

theorem count_of_table (free : IsFree config start) (listed : suffix ∈ suffixes block)
    (nodup : included.Nodup) (member : block ∈ included) :
    ((tableOf compiler config start included).map Macro.name).count
      (config.macroPrefix ++ suffix) = 1 := by
  have injective : Function.Injective (config.macroPrefix ++ · : String → String) :=
    fun _ _ same => by simpa using same
  have once : (included.flatMap suffixes).count suffix = 1 :=
    List.count_eq_one_of_mem (nodup_suffixes nodup) ((suffix_listed_iff listed).2 member)
  rw [names_of_table, List.count_append, List.count_eq_zero_of_not_mem (not_at_start free listed),
    List.count_map_of_injective _ _ injective, once]

theorem found_in_table
    (absent : config.macroPrefix ++ versionSuffix block ∉ start.map Macro.name)
    (nodup : included.Nodup) (member : block ∈ included) :
    (tableOf compiler config start included).find? (·.name = versionMacro config block) =
      some (macroOf (versionMacro config block) "" (toString block.version)) := by
  have inside : macroOf (versionMacro config block) "" (toString block.version) ∈
      included.flatMap fun block => definitions (keptBlock compiler config block) :=
    List.mem_flatMap.2 ⟨block, member, by simp [definitions, keptBlock, definitionOf]⟩
  have apart : ((included.flatMap fun block =>
      definitions (keptBlock compiler config block)).map Macro.name).Nodup := by
    rw [names_of_blocks]
    exact (nodup_suffixes nodup).map fun _ _ same => by simpa using same
  cases found : (tableOf compiler config start included).find?
      (·.name = versionMacro config block) with
  | none =>
      have absent := List.find?_eq_none.1 found _ (List.mem_append_left _ inside)
      simp [macroOf] at absent
  | some known =>
      have named : known.name = versionMacro config block := by
        simpa using List.find?_some found
      rcases List.mem_append.1 (List.mem_of_find?_eq_some found) with here | early
      · exact congrArg some (List.inj_on_of_nodup_map apart here inside named)
      · have known := List.mem_map_of_mem (f := Macro.name) early
        rw [named, version_macro_eq] at known
        exact (absent known).elim

theorem table_of_append (first second : List BlockName) :
    tableOf compiler config start (second ++ first) =
      tableOf compiler config (tableOf compiler config start first) second := by
  simp [tableOf]

theorem find_in_table {name : String}
    (other : ∀ block ∈ included, ∀ suffix ∈ suffixes block, config.macroPrefix ++ suffix ≠ name) :
    (tableOf compiler config start included).find? (·.name = name) =
      start.find? (·.name = name) := by
  have absent : (included.flatMap fun block =>
      definitions (keptBlock compiler config block)).find? (·.name = name) = none := by
    rw [List.find?_eq_none]
    intro known inside named
    have listed := List.mem_map_of_mem (f := Macro.name) inside
    rw [names_of_blocks, List.mem_map] at listed
    obtain ⟨suffix, member, same⟩ := listed
    obtain ⟨block, came, listed⟩ := List.mem_flatMap.1 member
    exact other block came suffix listed (same.trans (by simpa using named))
  rw [tableOf, List.find?_append, absent, Option.none_or]

end Tables

/-- The table has the versions of the blocks that have been seen, and no macro of the others. -/
structure Knows (config : Config) (seen : List BlockName) (macros : List Macro) : Prop where
  known : ∀ block ∈ seen, macros.find? (·.name = versionMacro config block) =
    some (macroOf (versionMacro config block) "" (toString block.version))
  fresh : ∀ block ∉ seen, ∀ suffix ∈ suffixes block,
    config.macroPrefix ++ suffix ∉ macros.map Macro.name

namespace Knows

variable {compiler : Compiler} {config other : Config} {macros : List Macro}
  {seen included : List BlockName}

theorem of_free (free : IsFree config macros) : Knows config [] macros where
  known := nofun
  fresh _ _ _ listed := not_at_start free listed

/-- It does not matter in which order and how often the blocks have been seen. -/
theorem congr {others : List BlockName} (same : ∀ block, block ∈ others ↔ block ∈ seen)
    (knows : Knows config seen macros) : Knows config others macros where
  known block member := knows.known block ((same block).1 member)
  fresh block new := knows.fresh block fun member => new ((same block).2 member)

theorem table (knows : Knows config seen macros) (nodup : included.Nodup)
    (new : ∀ block ∈ included, block ∉ seen) :
    Knows config (seen ++ included) (tableOf compiler config macros included) where
  known block member := by
    rcases List.mem_append.1 member with early | now
    · rw [find_in_table, knows.known block early]
      intro next came suffix listed same
      rw [version_macro_eq] at same
      obtain rfl : suffix = versionSuffix block := by simpa using same
      have different : next ≠ block := fun equal => new next came (equal ▸ early)
      exact suffixes_differ different _ listed (version_listed block)
    · exact found_in_table (knows.fresh block (new block now) _ (version_listed block)) nodup now
  fresh block absent suffix listed := by
    rw [List.mem_append, not_or] at absent
    rw [named_in_table_iff (knows.fresh block absent.1 suffix listed) listed]
    exact absent.2

end Knows

end EnumHeader.Cpp.Preprocessing

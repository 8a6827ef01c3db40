import EnumHeader.Command.Sources
import EnumHeader.Proofs.Command.Run
import EnumHeader.Proofs.Host
import Mathlib.Data.List.Find

/-!
# What a command reads

Which files are in use and what is read from them. Finding and reading leave the workspace as it
was, and the result depends on the files in use only. A configuration that comes out of this,
whether named, found or by default, has passed its check.
-/

namespace EnumHeader

set_option autoImplicit false

namespace Command

namespace Sources

/-- The configuration in use, if it is not the default: the one named, or else the nearest. -/
def configFile (sources : Sources) (workspace : Workspace) : Option Path :=
  sources.config.or
    ((configCandidates workspace.directoryPath).find?
      (workspace.tree.isFile workspace.directory))

def files (sources : Sources) (workspace : Workspace) : List Path :=
  (sources.configFile workspace).toList ++ [sources.definitions]

end Sources

section Reading

variable (workspace : Workspace) (path : Path)

theorem reads_only_read_text : ReadsOnly (readText path) := by
  refine (ReadsOnly.step fun _ => rfl).bind fun result => ?_
  cases result with
  | ok text => exact .pure text
  | error fault => exact .throw _

theorem outcome_read_text :
    workspace.outcome (readText path) =
      (workspace.tree.readText workspace.directory path).mapError (.unreadable path.text) := by
  have answer : workspace.outcome (liftM (Host.readText path : StateM Workspace _)) =
      .ok (workspace.tree.readText workspace.directory path) := rfl
  unfold readText
  rw [(ReadsOnly.step fun _ => rfl).outcome_bind, answer]
  cases workspace.tree.readText workspace.directory path <;> rfl

theorem outcome_read_text_eq_ok_iff (text : String) :
    workspace.outcome (readText path) = .ok text ↔
      workspace.bytesAt path = some text.toUTF8 := by
  rw [outcome_read_text, Workspace.bytesAt, ← FileTree.read_text_eq_ok_iff]
  cases workspace.tree.readText workspace.directory path <;> simp [Except.mapError]

theorem outcome_reading_eq_ok_iff {Value : Type} (parse : String → Except Failure Value)
    (value : Value) :
    workspace.outcome (readText path >>= fun text => liftM (parse text)) = .ok value ↔
      ∃ text : String, workspace.bytesAt path = some text.toUTF8 ∧ parse text = .ok value := by
  rw [(reads_only_read_text path).outcome_bind, Outcome.bind_eq_ok_iff]
  simp only [outcome_read_text_eq_ok_iff, Workspace.outcome_except]

theorem reads_only_load_config : ReadsOnly (loadConfig path) :=
  (reads_only_read_text path).bind fun _ => .except _

theorem outcome_load_config :
    workspace.outcome (loadConfig path) =
      (workspace.tree.readText workspace.directory path).mapError (.unreadable path.text) >>=
        Config.parse path.format := by
  unfold loadConfig
  rw [(reads_only_read_text path).outcome_bind, outcome_read_text]
  rfl

theorem outcome_load_config_eq_ok_iff (config : Config) :
    workspace.outcome (loadConfig path) = .ok config ↔
      ∃ text : String, workspace.bytesAt path = some text.toUTF8 ∧
        Config.parse path.format text = .ok config :=
  outcome_reading_eq_ok_iff workspace path (Config.parse path.format) config

theorem reads_only_load_definitions (config : Config) : ReadsOnly (loadDefinitions config path) :=
  (reads_only_read_text path).bind fun _ => .except _

theorem outcome_load_definitions_eq_ok_iff (config : Config) (definitions : List Definition) :
    workspace.outcome (loadDefinitions config path) = .ok definitions ↔
      ∃ text : String, workspace.bytesAt path = some text.toUTF8 ∧
        Definition.parseAll config path.format text = .ok definitions :=
  outcome_reading_eq_ok_iff workspace path (Definition.parseAll config path.format) definitions

end Reading

section Resolving

theorem first_file_run (workspace : Workspace) (paths : List Path) :
    StateT.run (firstFile paths) workspace =
      (pure (paths.find? (workspace.tree.isFile workspace.directory), workspace) : Id _) := by
  induction paths with
  | nil => rfl
  | cons path rest ih =>
      have answer : StateT.run (Host.isFile path) workspace =
          (pure (workspace.tree.isFile workspace.directory path, workspace) : Id _) := rfl
      rw [firstFile, StateT.run_bind, answer, pure_bind, List.find?_cons]
      cases workspace.tree.isFile workspace.directory path with
      | true => rfl
      | false => exact ih

theorem nearest_config_run (workspace : Workspace) :
    StateT.run (Host.currentDirectory >>= nearestConfig) workspace =
      (pure ((configCandidates workspace.directoryPath).find?
        (workspace.tree.isFile workspace.directory), workspace) : Id _) := by
  rw [StateT.run_bind]
  exact first_file_run workspace (configCandidates workspace.directoryPath)

variable (sources : Sources)

theorem reads_only_resolve_config : ReadsOnly (resolveConfig sources) := by
  unfold resolveConfig
  cases sources.config with
  | some path => exact reads_only_load_config path
  | none =>
      refine (ReadsOnly.step fun workspace => ?_).bind fun found => ?_
      · rw [nearest_config_run]
        rfl
      · cases found with
        | some path => exact reads_only_load_config path
        | none => exact .pure _

theorem outcome_resolve_config (workspace : Workspace) :
    workspace.outcome (resolveConfig sources) =
      match sources.configFile workspace with
      | some path => workspace.outcome (loadConfig path)
      | none => .ok {} := by
  unfold resolveConfig Sources.configFile
  cases sources.config with
  | some path => rfl
  | none =>
      dsimp only
      rw [Workspace.outcome_bind, Workspace.outcome_step, Workspace.after_step, nearest_config_run,
        Option.none_or]
      cases (configCandidates workspace.directoryPath).find?
        (workspace.tree.isFile workspace.directory) <;> rfl

theorem checked_of_resolve_config (workspace : Workspace) {config : Config}
    (resolved : workspace.outcome (resolveConfig sources) = .ok config) :
    config.check = .ok () := by
  rw [outcome_resolve_config] at resolved
  cases used : sources.configFile workspace with
  | none =>
      rw [used] at resolved
      obtain rfl := Except.ok.inj resolved
      rfl
  | some path =>
      rw [used] at resolved
      obtain ⟨text, -, parsed⟩ := (outcome_load_config_eq_ok_iff workspace path config).1 resolved
      unfold Config.parse at parsed
      simp only [Outcome.bind_eq_ok_iff] at parsed
      obtain ⟨node, -, found, -, ⟨⟩, checked, same⟩ := parsed
      obtain rfl := Except.ok.inj same
      exact checked

end Resolving

section Loading

variable (sources : Sources)

theorem reads_only_load : ReadsOnly (load sources) :=
  (reads_only_resolve_config sources).bind fun _ =>
    (reads_only_load_definitions _ _).bind fun _ => .pure _

theorem outcome_load_eq_ok_iff (workspace : Workspace) (config : Config)
    (definitions : List Definition) :
    workspace.outcome (load sources) = .ok (config, definitions) ↔
      workspace.outcome (resolveConfig sources) = .ok config ∧
        workspace.outcome (loadDefinitions config sources.definitions) = .ok definitions := by
  unfold load
  rw [(reads_only_resolve_config sources).outcome_bind, Outcome.bind_eq_ok_iff]
  simp only [(reads_only_load_definitions _ _).outcome_bind, Outcome.bind_eq_ok_iff,
    Workspace.outcome_pure, Except.ok.injEq, Prod.mk.injEq]
  constructor
  · rintro ⟨_, resolved, _, loaded, rfl, rfl⟩
    exact ⟨resolved, loaded⟩
  · rintro ⟨resolved, loaded⟩
    exact ⟨config, resolved, definitions, loaded, rfl, rfl⟩

end Loading

section Frame

variable {sources : Sources} {earlier later : Workspace} {target : Location}

theorem config_file_of_changes_only (wellFormed : earlier.WellFormed)
    (changed : FileTree.ChangesOnly target earlier.tree later.tree)
    (directory : later.directory = earlier.directory)
    (named : target.getLast? ≠ some configName) :
    sources.configFile later = sources.configFile earlier := by
  have nameIsPlain : Path.IsPlain configName := by decide
  have samePath : later.directoryPath = earlier.directoryPath := by
    rw [Workspace.directoryPath, directory, Workspace.directoryPath]
  unfold Sources.configFile
  rw [samePath]
  congr 1
  refine List.find?_congr fun candidate member => ?_
  obtain ⟨above, inside, rfl⟩ := List.mem_map.1 member
  obtain ⟨names, rfl, plain⟩ := Path.plain_of_mem_ancestors wellFormed.plain inside
  -- a candidate comes down by plain names and ends in a name that the target does not have
  rw [directory, Path.join_plain plain]
  refine FileTree.is_file_plain_of_changes_only wellFormed.closed changed ?_ ?_
  · rw [List.forall_mem_append]
    exact ⟨plain, List.forall_mem_singleton.2 nameIsPlain⟩
  · rintro rfl
    exact named List.getLast?_concat

theorem outcome_load_of_kept
    (sameConfig : sources.configFile later = sources.configFile earlier)
    (kept : ∀ file ∈ sources.files earlier, ∀ content, earlier.bytesAt file = some content →
      later.bytesAt file = some content) {config : Config} {definitions : List Definition}
    (loaded : earlier.outcome (load sources) = .ok (config, definitions)) :
    later.outcome (load sources) = .ok (config, definitions) := by
  rw [outcome_load_eq_ok_iff] at loaded ⊢
  rw [outcome_resolve_config, outcome_load_definitions_eq_ok_iff] at loaded ⊢
  obtain ⟨resolved, text, held, parsed⟩ := loaded
  have definitionsInUse : sources.definitions ∈ sources.files earlier :=
    List.mem_append_right _ (List.mem_singleton_self _)
  refine ⟨?_, text, kept _ definitionsInUse _ held, parsed⟩
  rw [sameConfig]
  cases used : sources.configFile earlier with
  | none =>
      rw [used] at resolved
      exact resolved
  | some path =>
      have configInUse : path ∈ sources.files earlier := by
        simp [Sources.files, used]
      rw [used] at resolved
      dsimp only at resolved ⊢
      rw [outcome_load_config_eq_ok_iff] at resolved ⊢
      obtain ⟨configText, configHeld, configParsed⟩ := resolved
      exact ⟨configText, kept _ configInUse _ configHeld, configParsed⟩

end Frame

end Command

end EnumHeader

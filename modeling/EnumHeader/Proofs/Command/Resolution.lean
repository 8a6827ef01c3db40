import EnumHeader.Proofs.Command.Sources

/-!
# The configuration in use

The places where a configuration is looked for are those above the current directory, nearest first:
the names of the directory, then one name less each time. Which path is chosen is stated here without
the search, and what is loaded from it without the steps that load it. A path that was chosen is
never given up for another, and no file counts but those in the places up to the chosen one.
-/

namespace EnumHeader

set_option autoImplicit false

section Nearest

variable {Item : Type}

/-- Of the lists above a list, itself first, the one that is found is the longest that passes. -/
theorem find_inits_eq_some_iff (test : List Item → Bool) (items found : List Item) :
    items.inits.reverse.find? test = some found ↔
      found <+: items ∧ test found = true ∧
        ∀ nearer, nearer <+: items → found.length < nearer.length → test nearer = false := by
  induction items using List.reverseRecOn with
  | nil =>
      have top : ([] : List Item).inits.reverse = [[]] := rfl
      simp only [top, List.find?_singleton, List.prefix_nil]
      constructor
      · intro chosen
        split at chosen
        next passes =>
          obtain rfl := Option.some.inj chosen
          exact ⟨rfl, passes, fun nearer none longer => absurd longer (by simp [none])⟩
        next => cases chosen
      · rintro ⟨rfl, passes, -⟩
        rw [if_pos passes]
  | append_singleton front last ih =>
      have above : (front ++ [last]).inits.reverse = (front ++ [last]) :: front.inits.reverse := by
        rw [List.inits_append]
        simp
      rw [above, List.find?_cons]
      simp only [List.prefix_concat_iff]
      cases passes : test (front ++ [last]) with
      | true =>
          constructor
          · rintro ⟨⟩
            refine ⟨.inl rfl, passes, ?_⟩
            rintro nearer (rfl | higher) longer
            · exact absurd longer (Nat.lt_irrefl _)
            · have shorter := higher.length_le
              simp only [List.length_append, List.length_singleton] at longer
              omega
          · rintro ⟨rfl | higher, -, first⟩
            · rfl
            · have shorter := higher.length_le
              have refused := first (front ++ [last]) (.inl rfl) (by simp; omega)
              cases passes.symm.trans refused
      | false =>
          dsimp only
          rw [ih]
          constructor
          · rintro ⟨higher, found, first⟩
            refine ⟨.inr higher, found, ?_⟩
            rintro nearer (rfl | between) longer
            · exact passes
            · exact first nearer between longer
          · rintro ⟨rfl | higher, found, first⟩
            · cases passes.symm.trans found
            · exact ⟨higher, found, fun nearer between => first nearer (.inr between)⟩

end Nearest

namespace Command

def configAt (above : Location) : Path :=
  ⟨.root, above ++ [configName]⟩

def HasConfig (workspace : Workspace) (above : Location) : Prop :=
  ∃ content, workspace.bytesAt (configAt above) = some content

/-- Which configuration is in use: the one that is named, or else the one in the nearest directory
that has one, the current directory first, or else none. -/
inductive Chosen (sources : Sources) (workspace : Workspace) : Option Path → Prop where
  | named (path : Path) (given : sources.config = some path) : Chosen sources workspace (some path)
  | nearest (above : Location) (unnamed : sources.config = none)
      (upwards : above <+: workspace.directory) (present : HasConfig workspace above)
      (first : ∀ nearer, nearer <+: workspace.directory → above.length < nearer.length →
        ¬HasConfig workspace nearer) :
      Chosen sources workspace (some (configAt above))
  | nowhere (unnamed : sources.config = none)
      (absent : ∀ above, above <+: workspace.directory → ¬HasConfig workspace above) :
      Chosen sources workspace none

/-- What becomes of the path of a configuration: its text cannot be had, is no document, holds no
configuration or one that is rejected, or the configuration is accepted. -/
inductive Loads (workspace : Workspace) (path : Path) : Except Failure Config → Prop where
  | unreadable {fault : FileTree.Fault}
      (refused : workspace.tree.readText workspace.directory path = .error fault) :
      Loads workspace path (.error (.unreadable path.text fault))
  | malformed {text : String} {failure : Failure}
      (held : workspace.bytesAt path = some text.toUTF8)
      (refused : Document.parse path.format text = .error failure) :
      Loads workspace path (.error failure)
  | misfit {text : String} {node : Document.Node} {failure : Failure}
      (held : workspace.bytesAt path = some text.toUTF8)
      (parsed : Document.parse path.format text = .ok node)
      (refused : Config.ofNode path.format node = .error failure) :
      Loads workspace path (.error failure)
  | rejected {text : String} {node : Document.Node} {config : Config} {failure : Failure}
      (held : workspace.bytesAt path = some text.toUTF8)
      (parsed : Document.parse path.format text = .ok node)
      (found : Config.ofNode path.format node = .ok config)
      (refused : config.check = .error failure) :
      Loads workspace path (.error failure)
  | accepted {text : String} {node : Document.Node} {config : Config}
      (held : workspace.bytesAt path = some text.toUTF8)
      (parsed : Document.parse path.format text = .ok node)
      (found : Config.ofNode path.format node = .ok config)
      (passed : config.check = .ok ()) :
      Loads workspace path (.ok config)

/-- What the choice of a configuration comes to. There is no second choice. -/
inductive Resolves (sources : Sources) (workspace : Workspace) : Except Failure Config → Prop where
  | loaded {path : Path} {result : Except Failure Config}
      (chosen : Chosen sources workspace (some path)) (loads : Loads workspace path result) :
      Resolves sources workspace result
  | standard (chosen : Chosen sources workspace none) : Resolves sources workspace (.ok {})

/-- A place that is looked at: no nearer one has a configuration. -/
def IsConsulted (workspace : Workspace) (above : Location) : Prop :=
  above <+: workspace.directory ∧ ∀ nearer, nearer <+: workspace.directory →
    above.length < nearer.length → ¬HasConfig workspace nearer

section Choosing

variable {sources : Sources} {workspace : Workspace}

theorem config_candidates_plain (plain : ∀ name ∈ workspace.directory, Path.IsPlain name) :
    configCandidates workspace.directoryPath =
      workspace.directory.inits.reverse.map configAt := by
  unfold configCandidates Workspace.directoryPath
  rw [Path.ancestors_plain plain, List.map_map]
  refine List.map_congr_left fun above inside => ?_
  rw [List.mem_reverse, List.mem_inits] at inside
  exact Path.join_plain (fun name named => plain name (inside.subset named)) .root configName

theorem is_file_config_iff (above : Location) :
    workspace.tree.isFile workspace.directory (configAt above) = true ↔
      HasConfig workspace above :=
  FileTree.is_file_iff

theorem config_file_of_chosen (plain : ∀ name ∈ workspace.directory, Path.IsPlain name)
    {choice : Option Path} (chosen : Chosen sources workspace choice) :
    sources.configFile workspace = choice := by
  unfold Sources.configFile
  rw [config_candidates_plain plain, List.find?_map]
  cases chosen with
  | named path given => rw [given, Option.some_or]
  | nearest above unnamed upwards present first =>
      have found := (find_inits_eq_some_iff
        (workspace.tree.isFile workspace.directory ∘ configAt) workspace.directory above).2
        ⟨upwards, (is_file_config_iff above).2 present, fun nearer between longer =>
          Bool.eq_false_iff.2 fun found =>
            first nearer between longer ((is_file_config_iff nearer).1 found)⟩
      rw [unnamed, Option.none_or, found, Option.map_some]
  | nowhere unnamed absent =>
      rw [unnamed, Option.none_or, Option.map_eq_none_iff, List.find?_eq_none]
      intro above inside found
      rw [List.mem_reverse, List.mem_inits] at inside
      exact absent above inside ((is_file_config_iff above).1 found)

theorem chosen_config_file (plain : ∀ name ∈ workspace.directory, Path.IsPlain name)
    (sources : Sources) :
    Chosen sources workspace (sources.configFile workspace) := by
  unfold Sources.configFile
  rw [config_candidates_plain plain, List.find?_map]
  cases given : sources.config with
  | some path => exact .named path given
  | none =>
      rw [Option.none_or]
      cases search : workspace.directory.inits.reverse.find?
        (workspace.tree.isFile workspace.directory ∘ configAt) with
      | some above =>
          obtain ⟨upwards, present, first⟩ := (find_inits_eq_some_iff _ _ _).1 search
          refine .nearest above given upwards ((is_file_config_iff above).1 present) ?_
          intro nearer between longer found
          cases (first nearer between longer).symm.trans ((is_file_config_iff nearer).2 found)
      | none =>
          refine .nowhere given fun above upwards found => ?_
          rw [List.find?_eq_none] at search
          exact search above (List.mem_reverse.2 ((List.mem_inits _ _).2 upwards))
            ((is_file_config_iff above).2 found)

end Choosing

section Loading

variable {workspace other : Workspace} {path : Path}

theorem outcome_load_config_of_held {text : String}
    (held : workspace.bytesAt path = some text.toUTF8) :
    workspace.outcome (loadConfig path) = Config.parse path.format text := by
  rw [outcome_load_config, (FileTree.read_text_eq_ok_iff text).2 held]
  rfl

theorem outcome_load_config_eq_iff (result : Except Failure Config) :
    workspace.outcome (loadConfig path) = result ↔ Loads workspace path result := by
  constructor
  · rintro rfl
    cases read : workspace.tree.readText workspace.directory path with
    | error fault =>
        rw [outcome_load_config, read]
        exact .unreadable read
    | ok text =>
        have held := (FileTree.read_text_eq_ok_iff text).1 read
        rw [outcome_load_config_of_held held, Config.parse]
        cases parsed : Document.parse path.format text with
        | error failure => exact .malformed held parsed
        | ok node =>
            rw [Outcome.bind_of_ok rfl]
            cases found : Config.ofNode path.format node with
            | error failure => exact .misfit held parsed found
            | ok config =>
                rw [Outcome.bind_of_ok rfl]
                cases checked : config.check with
                | error failure => exact .rejected held parsed found checked
                | ok done => exact .accepted held parsed found checked
  · intro loads
    cases loads with
    | unreadable refused =>
        rw [outcome_load_config, refused]
        rfl
    | malformed held refused =>
        rw [outcome_load_config_of_held held, Config.parse, refused]
        rfl
    | misfit held parsed refused =>
        rw [outcome_load_config_of_held held, Config.parse, Outcome.bind_of_ok parsed, refused]
        rfl
    | rejected held parsed found refused =>
        rw [outcome_load_config_of_held held, Config.parse, Outcome.bind_of_ok parsed,
          Outcome.bind_of_ok found, refused]
        rfl
    | accepted held parsed found passed =>
        rw [outcome_load_config_of_held held, Config.parse, Outcome.bind_of_ok parsed,
          Outcome.bind_of_ok found, passed]
        rfl

theorem outcome_load_config_of_same
    (same : other.tree.find other.directory path = workspace.tree.find workspace.directory path) :
    other.outcome (loadConfig path) = workspace.outcome (loadConfig path) := by
  simp only [outcome_load_config, FileTree.readText, same]

end Loading

section Guarantees

variable {sources : Sources} {workspace other : Workspace}

theorem outcome_resolve_config_eq_iff (plain : ∀ name ∈ workspace.directory, Path.IsPlain name)
    (result : Except Failure Config) :
    workspace.outcome (resolveConfig sources) = result ↔ Resolves sources workspace result := by
  rw [outcome_resolve_config]
  constructor
  · rintro rfl
    have chosen := chosen_config_file plain sources
    cases used : sources.configFile workspace with
    | none =>
        rw [used] at chosen
        exact .standard chosen
    | some path =>
        rw [used] at chosen
        exact .loaded chosen ((outcome_load_config_eq_iff _).1 rfl)
  · intro resolves
    cases resolves with
    | loaded chosen loads =>
        rw [config_file_of_chosen plain chosen]
        exact (outcome_load_config_eq_iff _).2 loads
    | standard chosen => rw [config_file_of_chosen plain chosen]

theorem plain_config_at {above : Location} (plain : ∀ name ∈ workspace.directory, Path.IsPlain name)
    (upwards : above <+: workspace.directory) :
    ∀ name ∈ above ++ [configName], Path.IsPlain name := by
  rw [List.forall_mem_append, List.forall_mem_singleton]
  exact ⟨fun name named => plain name (upwards.subset named), by decide⟩

theorem bytes_at_config_iff (wellFormed : workspace.WellFormed) {above : Location}
    (upwards : above <+: workspace.directory) (content : ByteArray) :
    workspace.bytesAt (configAt above) = some content ↔
      FileTree.checkPath (configAt above) = .ok () ∧
        (∀ name ∈ above, name.utf8ByteSize ≤ FileTree.maxNameSize) ∧
        workspace.tree.contentAt (above ++ [configName]) = some content := by
  have short : configName.utf8ByteSize ≤ FileTree.maxNameSize := by decide
  unfold Workspace.bytesAt configAt
  rw [FileTree.bytes_at_plain_iff wellFormed.closed (plain_config_at wellFormed.plain upwards),
    List.forall_mem_append, List.forall_mem_singleton, and_iff_left short]

theorem has_config_iff (wellFormed : workspace.WellFormed) {above : Location}
    (upwards : above <+: workspace.directory) :
    HasConfig workspace above ↔
      FileTree.checkPath (configAt above) = .ok () ∧
        (∀ name ∈ above, name.utf8ByteSize ≤ FileTree.maxNameSize) ∧
        ∃ content, workspace.tree.contentAt (above ++ [configName]) = some content := by
  unfold HasConfig
  simp only [bytes_at_config_iff wellFormed upwards, exists_and_left]

theorem chosen_of_same (directory : other.directory = workspace.directory)
    (same : ∀ above, IsConsulted workspace above →
      (HasConfig other above ↔ HasConfig workspace above))
    {choice : Option Path} (chosen : Chosen sources workspace choice) :
    Chosen sources other choice := by
  cases chosen with
  | named path given => exact .named path given
  | nearest above unnamed upwards present first =>
      have presentThere := (same above ⟨upwards, first⟩).2 present
      refine .nearest above unnamed (directory ▸ upwards) presentThere ?_
      rw [directory]
      intro nearer between longer found
      -- what is nearer than a place that is looked at is looked at as well
      have consulted : IsConsulted workspace nearer :=
        ⟨between, fun next higher further => first next higher (longer.trans further)⟩
      exact first nearer between longer ((same nearer consulted).1 found)
  | nowhere unnamed absent =>
      refine .nowhere unnamed ?_
      rw [directory]
      intro above upwards found
      have consulted : IsConsulted workspace above :=
        ⟨upwards, fun nearer between _ => absent nearer between⟩
      exact absent above upwards ((same above consulted).1 found)

theorem outcome_resolve_config_of_same (wellFormed : workspace.WellFormed)
    (otherFormed : other.WellFormed) (unnamed : sources.config = none)
    (directory : other.directory = workspace.directory)
    (same : ∀ above, IsConsulted workspace above →
      other.tree.contentAt (above ++ [configName]) =
        workspace.tree.contentAt (above ++ [configName])) :
    other.outcome (resolveConfig sources) = workspace.outcome (resolveConfig sources) := by
  have sameBytes : ∀ above, IsConsulted workspace above → ∀ content,
      other.bytesAt (configAt above) = some content ↔
        workspace.bytesAt (configAt above) = some content := by
    intro above consulted content
    rw [bytes_at_config_iff wellFormed consulted.1,
      bytes_at_config_iff otherFormed (directory ▸ consulted.1), same above consulted]
  have chosen := chosen_config_file wellFormed.plain sources
  have chosenThere := chosen_of_same directory
    (fun above consulted => exists_congr (sameBytes above consulted)) chosen
  rw [outcome_resolve_config, outcome_resolve_config,
    config_file_of_chosen otherFormed.plain chosenThere]
  generalize sources.configFile workspace = choice at chosen ⊢
  cases chosen with
  | named path given => cases unnamed.symm.trans given
  | nearest above unnamed upwards present first =>
      obtain ⟨content, held⟩ := present
      have heldThere := (sameBytes above ⟨upwards, first⟩ content).2 held
      refine outcome_load_config_of_same ?_
      rw [(FileTree.find_eq_file_iff content).2 held,
        (FileTree.find_eq_file_iff content).2 heldThere]
  | nowhere unnamed absent => rfl

structure ResolutionGuarantees (sources : Sources) (workspace : Workspace) : Prop where
  /-- One choice is made, and the result is what that choice comes to. -/
  chosen : ∃! choice, Chosen sources workspace choice
  resolved : ∀ result,
    workspace.outcome (resolveConfig sources) = result ↔ Resolves sources workspace result
  /-- A directory has a configuration if there is a file of that name in it, within the limits of the
  system; neither nothing nor a directory of that name will do. -/
  present : ∀ above, above <+: workspace.directory →
    (HasConfig workspace above ↔
      FileTree.checkPath (configAt above) = .ok () ∧
        (∀ name ∈ above, name.utf8ByteSize ≤ FileTree.maxNameSize) ∧
        ∃ content, workspace.tree.contentAt (above ++ [configName]) = some content)
  /-- A configuration that is named is all that counts. -/
  named : ∀ path, sources.config = some path → ∀ other : Workspace,
    other.tree.find other.directory path = workspace.tree.find workspace.directory path →
    other.outcome (resolveConfig sources) = workspace.outcome (resolveConfig sources)
  /-- Otherwise the places up to the chosen one are all that counts. -/
  searched : sources.config = none → ∀ other : Workspace, other.WellFormed →
    other.directory = workspace.directory →
    (∀ above, IsConsulted workspace above →
      other.tree.contentAt (above ++ [configName]) =
        workspace.tree.contentAt (above ++ [configName])) →
    other.outcome (resolveConfig sources) = workspace.outcome (resolveConfig sources)
  kept : workspace.after (resolveConfig sources) = workspace

theorem resolve_config_guarantees (sources : Sources) (wellFormed : workspace.WellFormed) :
    ResolutionGuarantees sources workspace where
  chosen :=
    ⟨_, chosen_config_file wellFormed.plain sources, fun _ chosen =>
      (config_file_of_chosen wellFormed.plain chosen).symm⟩
  resolved := outcome_resolve_config_eq_iff wellFormed.plain
  present _ upwards := has_config_iff wellFormed upwards
  named path given other same := by
    have used (some : Workspace) : sources.configFile some = path := by
      rw [Sources.configFile, given, Option.some_or]
    rw [outcome_resolve_config, outcome_resolve_config, used, used]
    exact outcome_load_config_of_same same
  searched unnamed _ otherFormed directory same :=
    outcome_resolve_config_of_same wellFormed otherFormed unnamed directory same
  kept := reads_only_resolve_config sources workspace

def nested : Workspace where
  tree :=
    ⟨[(["home"], .directory), (["home", "src"], .directory),
      (["home", "src", "enumwright.toml"], .directory),
      (["home", "enumwright.toml"], .file "runtime_namespace = \"class\"\n".toUTF8),
      (["enumwright.toml"], .file "indent = \"\\t\"\n".toUTF8)]⟩
  directory := ["home", "src"]
  clock := ⟨2024, 2, 29, 12, 0, 0, 0⟩

theorem nested_well_formed : nested.WellFormed where
  closed := by
    refine FileTree.closed_of_items fun entry member => ?_
    simp only [nested, List.mem_cons, List.not_mem_nil, or_false] at member
    rcases member with rfl | rfl | rfl | rfl | rfl <;> rfl
  present := rfl
  plain := by decide

/-- The directory in the way is passed over; the file above it is in use, and its being rejected does
not bring in the one at the root. -/
theorem nested_is_rejected :
    nested.WellFormed ∧
      nested.outcome (resolveConfig ⟨none, ⟨.bare, ["enums.toml"]⟩⟩) =
        .error (.invalidValue "runtime_namespace" "class") := by
  have guarantees := resolve_config_guarantees ⟨none, ⟨.bare, ["enums.toml"]⟩⟩ nested_well_formed
  have own : nested.bytesAt (configAt ["home", "src"]) = none := rfl
  have chosen : Chosen ⟨none, ⟨.bare, ["enums.toml"]⟩⟩ nested (some (configAt ["home"])) := by
    refine .nearest ["home"] rfl ⟨["src"], rfl⟩ ⟨_, rfl⟩ fun nearer between longer => ?_
    obtain rfl : nearer = ["home", "src"] := between.eq_of_length_le longer
    rintro ⟨content, held⟩
    cases own.symm.trans held
  have loads : Loads nested (configAt ["home"])
      (.error (.invalidValue "runtime_namespace" "class")) :=
    (outcome_load_config_eq_iff _).1 (by decide +kernel)
  exact ⟨nested_well_formed, (guarantees.resolved _).2 (.loaded chosen loads)⟩

end Guarantees

end Command

end EnumHeader

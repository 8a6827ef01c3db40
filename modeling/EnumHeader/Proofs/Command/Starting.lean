import EnumHeader.Command.Init
import EnumHeader.Proofs.Command.Run
import EnumHeader.Proofs.Writing

/-!
# What starting a project does to files

The starter files are written one after the other to the current directory. A file can be written
unless a directory stands in its place, so what a run leaves is the workspace with the files written
up to the first whose place a directory has taken. Without force nothing is written where anything
stands, and a run writes both files or none. A forced run does not look first: a directory in the
place of the second file stops it when the first has been replaced already.
-/

namespace EnumHeader

set_option autoImplicit false

namespace Command

section Writing

variable {workspace : Workspace} {name text : String} {rest : List (String × String)}

theorem write_text_bind {Result : Type} {path : Path} {answer : Except FileTree.Fault Unit}
    {left : Workspace} (written : workspace.writeBytes path text.toUTF8 = (answer, left))
    (next : Except FileTree.Fault Unit → ExceptT Failure (StateM Workspace) Result) :
    workspace.outcome (liftM (Host.writeText path text : StateM Workspace _) >>= next) =
        left.outcome (next answer) ∧
      workspace.after (liftM (Host.writeText path text : StateM Workspace _) >>= next) =
        left.after (next answer) := by
  have ends : workspace.outcome (liftM (Host.writeText path text : StateM Workspace _)) =
      .ok (workspace.writeBytes path text.toUTF8).1 := rfl
  have leaves : workspace.after (liftM (Host.writeText path text : StateM Workspace _)) =
      (workspace.writeBytes path text.toUTF8).2 := rfl
  rw [Workspace.outcome_bind, Workspace.after_bind, ends, leaves, written]
  exact ⟨rfl, rfl⟩

theorem write_all_of_writable (text : String) (rest : List (String × String))
    (named : FileTree.IsFileName name) (writable : workspace.isWritable name = true) :
    workspace.outcome (writeAll ((name, text) :: rest)) =
        (workspace.put name text).outcome (writeAll rest) ∧
      workspace.after (writeAll ((name, text) :: rest)) =
        (workspace.put name text).after (writeAll rest) := by
  rw [writeAll]
  exact write_text_bind (Workspace.write_bytes_of_writable named writable) _

theorem write_all_of_not_writable (text : String) (rest : List (String × String))
    (named : FileTree.IsFileName name) (blocked : workspace.isWritable name = false) :
    ∃ fault, workspace.outcome (writeAll ((name, text) :: rest)) = .error (.unwritable fault) ∧
      workspace.after (writeAll ((name, text) :: rest)) = workspace ∧
      (workspace.tree.item? workspace.directory = some .directory → fault = .isDirectory) := by
  obtain ⟨fault, refused, cause⟩ := Workspace.write_bytes_of_not_writable text named blocked
  rw [writeAll]
  obtain ⟨ends, leaves⟩ := write_text_bind refused fun answer => do
    writing answer
    writeAll rest
  exact ⟨fault, ends, leaves, cause⟩

/-- How writing a list of files ends, and the workspace it leaves. -/
inductive WritesInTurn (workspace : Workspace) :
    List (String × String) → Except Failure Unit → Workspace → Prop where
  | all (files : List (String × String))
      (writable : ∀ file ∈ files, workspace.isWritable file.1 = true) :
      WritesInTurn workspace files (.ok ()) (workspace.putAll files)
  /-- A directory, or no current directory, stops the run at a file. -/
  | upTo (done : List (String × String)) (name text : String) (rest : List (String × String))
      (fault : FileTree.Fault)
      (writable : ∀ file ∈ done, workspace.isWritable file.1 = true)
      (blocked : workspace.isWritable name = false)
      (cause : workspace.tree.item? workspace.directory = some .directory → fault = .isDirectory) :
      WritesInTurn workspace (done ++ (name, text) :: rest) (.error (.unwritable fault))
        (workspace.putAll done)

theorem writes_in_turn_cons {result : Except Failure Unit} {later : Workspace}
    (writable : workspace.isWritable name = true) (apart : name ∉ rest.map Prod.fst)
    (ends : WritesInTurn (workspace.put name text) rest result later) :
    WritesInTurn workspace ((name, text) :: rest) result later := by
  -- the other files have places of their own, so they are as writable as before
  have kept : ∀ file ∈ rest,
      (workspace.put name text).isWritable file.1 = workspace.isWritable file.1 := by
    intro file member
    apply Workspace.is_writable_put writable
    rintro rfl
    exact apart (List.mem_map_of_mem member)
  cases ends with
  | all files all =>
      refine .all ((name, text) :: rest) ?_
      simp only [List.forall_mem_cons]
      exact ⟨writable, fun file member => (kept file member) ▸ all file member⟩
  | upTo done other otherText rest fault all blocked cause =>
      have here := Workspace.item_put text writable workspace.directory
      rw [if_neg (by simp)] at here
      refine .upTo ((name, text) :: done) other otherText rest fault ?_ ?_ ?_
      · simp only [List.forall_mem_cons]
        exact ⟨writable, fun file member => (kept file (by simp [member])) ▸ all file member⟩
      · exact (kept (other, otherText) (by simp)).symm.trans blocked
      · exact fun present => cause (here.trans present)

theorem write_all_ends {files : List (String × String)}
    (named : ∀ file ∈ files, FileTree.IsFileName file.1)
    (distinct : (files.map Prod.fst).Nodup) (workspace : Workspace) :
    WritesInTurn workspace files (workspace.outcome (writeAll files))
      (workspace.after (writeAll files)) := by
  induction files generalizing workspace with
  | nil => exact .all [] nofun
  | cons file rest ih =>
      obtain ⟨name, text⟩ := file
      simp only [List.map_cons, List.nodup_cons, List.forall_mem_cons] at named distinct
      cases writable : workspace.isWritable name with
      | false =>
          obtain ⟨fault, ends, leaves, cause⟩ :=
            write_all_of_not_writable text rest named.1 writable
          rw [ends, leaves]
          exact .upTo [] name text rest fault nofun writable cause
      | true =>
          obtain ⟨ends, leaves⟩ := write_all_of_writable text rest named.1 writable
          rw [ends, leaves]
          exact writes_in_turn_cons writable distinct.1 (ih named.2 distinct.2 _)

end Writing

section Starters

theorem chars_of_lines (lines : List String) :
    (textOfLines lines).toList = lines.flatMap (·.toList ++ ['\n']) := by
  simp only [textOfLines, String.toList_join, List.flatMap_map, String.toList_append]
  rfl

def starterConfigName (format : Document.Format) : String :=
  "enumwright." ++ format.extension

def starterDefinitionsName (format : Document.Format) : String :=
  "enums." ++ format.extension

theorem config_is_readable : (Document.Toml.read (textOfLines starterConfig).toList).isSome := by
  rw [chars_of_lines]
  simp only [starterConfig, List.flatMap_cons, List.flatMap_nil]
  repeat rw [String.toList_ofList]
  decide +kernel

theorem definitions_are_readable :
    (Document.Toml.read (textOfLines starterDefinitions).toList).isSome := by
  rw [chars_of_lines]
  simp only [starterDefinitions, List.flatMap_cons, List.flatMap_nil]
  repeat rw [String.toList_ofList]
  decide +kernel

theorem starter_text_of_readable {lines : List String}
    (readable : (Document.Toml.read (textOfLines lines).toList).isSome)
    (format : Document.Format) : ∃ text, starterText format lines = .ok text := by
  cases format with
  | toml => exact ⟨_, rfl⟩
  | json =>
      obtain ⟨node, found⟩ := Option.isSome_iff_exists.1 readable
      refine ⟨Document.Json.write node ++ "\n", ?_⟩
      simp [starterText, Document.parse, found, bind, Except.bind, pure, Except.pure]

theorem starter_files_eq (format : Document.Format) :
    ∃ config definitions,
      starterText format starterConfig = .ok config ∧
        starterText format starterDefinitions = .ok definitions ∧
          starterFiles format = .ok
            [(starterConfigName format, config), (starterDefinitionsName format, definitions)] := by
  obtain ⟨config, configEq⟩ := starter_text_of_readable config_is_readable format
  obtain ⟨definitions, definitionsEq⟩ := starter_text_of_readable definitions_are_readable format
  refine ⟨config, definitions, configEq, definitionsEq, ?_⟩
  unfold starterFiles
  rw [configEq, definitionsEq]
  rfl

theorem file_name_of_config (format : Document.Format) :
    FileTree.IsFileName (starterConfigName format) := by
  cases format with
  | toml => exact ⟨by decide, by decide, rfl, by decide⟩
  | json => exact ⟨by decide, by decide, rfl, by decide⟩

theorem file_name_of_definitions (format : Document.Format) :
    FileTree.IsFileName (starterDefinitionsName format) := by
  cases format with
  | toml => exact ⟨by decide, by decide, rfl, by decide⟩
  | json => exact ⟨by decide, by decide, rfl, by decide⟩

end Starters

section Looking

theorem first_present_run (files : List (String × String)) (workspace : Workspace) :
    StateT.run (firstPresent files : StateM Workspace _) workspace =
      (pure ((files.find? fun file =>
          workspace.tree.isPresent workspace.directory (Path.ofText file.1)).map Prod.fst,
        workspace) : Id _) := by
  induction files with
  | nil => rfl
  | cons file rest ih =>
      obtain ⟨name, text⟩ := file
      have asked : StateT.run (Host.isPresent (Path.ofText name)) workspace =
          (pure (workspace.tree.isPresent workspace.directory (Path.ofText name), workspace) :
            Id _) := rfl
      rw [firstPresent, StateT.run_bind, asked, pure_bind, List.find?_cons]
      cases workspace.tree.isPresent workspace.directory (Path.ofText name) with
      | true => rfl
      | false => exact ih

def firstThere (workspace : Workspace) (files : List (String × String)) : Option String :=
  (files.find? fun file =>
    workspace.tree.isPresent workspace.directory (Path.ofText file.1)).map Prod.fst

variable {format : Document.Format} {files : List (String × String)} {workspace : Workspace}

theorem first_present_outcome (files : List (String × String)) (workspace : Workspace) :
    workspace.outcome (liftM (firstPresent files : StateM Workspace _)) =
        .ok (firstThere workspace files) ∧
      workspace.after (liftM (firstPresent files : StateM Workspace _)) = workspace := by
  rw [Workspace.outcome_step, Workspace.after_step, first_present_run]
  exact ⟨rfl, rfl⟩

theorem init_places (made : starterFiles format = .ok files) {force : Bool}
    (free : force = false → firstThere workspace files = none) :
    workspace.outcome (init force format) =
        (workspace.outcome (writeAll files) >>= fun _ => .ok (nextSteps format)) ∧
      workspace.after (init force format) = workspace.after (writeAll files) := by
  have reads := ReadsOnly.except (starterFiles format)
  have listed : workspace.outcome (liftM (starterFiles format)) = .ok files := made
  obtain ⟨looked, stays⟩ := first_present_outcome files workspace
  have placed : workspace.outcome (writeAll files >>= fun _ => pure (nextSteps format)) =
        (workspace.outcome (writeAll files) >>= fun _ => .ok (nextSteps format)) ∧
      workspace.after (writeAll files >>= fun _ => pure (nextSteps format)) =
        workspace.after (writeAll files) := by
    rw [Workspace.outcome_bind, Workspace.after_bind]
    cases workspace.outcome (writeAll files) <;> exact ⟨rfl, rfl⟩
  unfold init
  rw [(reads.run_bind listed).1, (reads.run_bind listed).2]
  cases force with
  | true => exact placed
  | false =>
      simp only [Bool.not_false, if_true]
      rw [Workspace.outcome_bind, Workspace.after_bind, looked, stays, free rfl]
      exact placed

theorem init_refuses (made : starterFiles format = .ok files) {name : String}
    (there : firstThere workspace files = some name) :
    workspace.outcome (init false format) = .error (.misuse (.wouldOverwrite name)) ∧
      workspace.after (init false format) = workspace := by
  have reads := ReadsOnly.except (starterFiles format)
  have listed : workspace.outcome (liftM (starterFiles format)) = .ok files := made
  obtain ⟨looked, stays⟩ := first_present_outcome files workspace
  unfold init
  rw [(reads.run_bind listed).1, (reads.run_bind listed).2]
  simp only [Bool.not_false, if_true]
  rw [Workspace.outcome_bind, Workspace.after_bind, looked, stays, there]
  exact ⟨rfl, rfl⟩

end Looking

section Guarantees

variable {force : Bool} {format : Document.Format} {config definitions : String}
  {workspace : Workspace}

def IsBlockedHalfway (workspace : Workspace) (format : Document.Format) : Prop :=
  workspace.tree.isDirectory workspace.directory (Path.ofText (starterConfigName format)) = false ∧
    workspace.tree.isDirectory workspace.directory
      (Path.ofText (starterDefinitionsName format)) = true

structure CanStart (force : Bool) (format : Document.Format) (workspace : Workspace) : Prop where
  present : workspace.tree.item? workspace.directory = some .directory
  free : ∀ name ∈ [starterConfigName format, starterDefinitionsName format],
    if force then workspace.tree.isDirectory workspace.directory (Path.ofText name) = false
    else workspace.tree.isPresent workspace.directory (Path.ofText name) = false

/-- How a run that starts a project can end, and the workspace it leaves. -/
inductive StartEnds (force : Bool) (format : Document.Format) (config definitions : String)
    (workspace : Workspace) : Except Failure String → Workspace → Prop where
  | refused (failure : Failure) (unable : ¬CanStart force format workspace)
      (whole : ¬(force = true ∧ IsBlockedHalfway workspace format)) :
      StartEnds force format config definitions workspace (.error failure) workspace
  | halfway (forced : force = true) (blocked : IsBlockedHalfway workspace format)
      (later : Workspace)
      (puts : Workspace.PutsAll [(starterConfigName format, config)] workspace later) :
      StartEnds force format config definitions workspace (.error (.unwritable .isDirectory)) later
  | started (able : CanStart force format workspace) (later : Workspace)
      (puts : Workspace.PutsAll
        [(starterConfigName format, config), (starterDefinitionsName format, definitions)]
        workspace later) :
      StartEnds force format config definitions workspace (.ok (nextSteps format)) later

theorem distinct_names (format : Document.Format) :
    starterConfigName format ≠ starterDefinitionsName format := by
  cases format <;> decide

theorem is_blocked_halfway_iff (workspace : Workspace) (format : Document.Format) :
    IsBlockedHalfway workspace format ↔
      workspace.isWritable (starterConfigName format) = true ∧
        workspace.isWritable (starterDefinitionsName format) = false ∧
          workspace.tree.item? workspace.directory = some .directory := by
  unfold IsBlockedHalfway Workspace.isWritable
  rw [← Bool.not_eq_true, ← Bool.not_eq_true, FileTree.is_writable_iff, FileTree.is_writable_iff,
    FileTree.is_directory_name_iff (file_name_of_config format),
    FileTree.is_directory_name_iff (file_name_of_definitions format)]
  tauto

/-- A project can be started where both files can be written and no unforced look finds one. -/
theorem can_start_iff :
    CanStart force format workspace ↔
      (∀ file ∈ [(starterConfigName format, config), (starterDefinitionsName format, definitions)],
          workspace.isWritable file.1 = true) ∧
        (force = false → firstThere workspace
          [(starterConfigName format, config), (starterDefinitionsName format, definitions)] =
            none) := by
  have configNamed := file_name_of_config format
  have definitionsNamed := file_name_of_definitions format
  have split : CanStart force format workspace ↔
      workspace.tree.item? workspace.directory = some .directory ∧
        ∀ name ∈ [starterConfigName format, starterDefinitionsName format],
          if force then workspace.tree.isDirectory workspace.directory (Path.ofText name) = false
          else workspace.tree.isPresent workspace.directory (Path.ofText name) = false :=
    ⟨fun able => ⟨able.present, able.free⟩, fun both => ⟨both.1, both.2⟩⟩
  rw [split]
  simp only [List.forall_mem_cons, Workspace.isWritable, FileTree.is_writable_iff, firstThere,
    Option.map_eq_none_iff, List.find?_eq_none, List.not_mem_nil, false_implies, implies_true,
    and_true]
  cases force with
  | true =>
      simp only [if_true, ← Bool.not_eq_true, FileTree.is_directory_name_iff configNamed,
        FileTree.is_directory_name_iff definitionsNamed]
      tauto
  | false =>
      simp only [Bool.false_eq_true, if_false, ← Bool.not_eq_true,
        FileTree.is_present_name_iff configNamed, FileTree.is_present_name_iff definitionsNamed,
        true_implies]
      constructor
      · rintro ⟨present, first, second⟩
        have absent := not_and.1 first present
        have absentToo := not_and.1 second present
        simp only [ne_eq, not_not] at absent absentToo
        simp [present, absent, absentToo]
      · rintro ⟨⟨⟨present, -⟩, -⟩, neither⟩
        exact ⟨present, neither⟩

/-- Without force a directory in the place of either file is found before anything is written. -/
theorem not_blocked_of_free
    (free : firstThere workspace
      [(starterConfigName format, config), (starterDefinitionsName format, definitions)] = none) :
    ¬IsBlockedHalfway workspace format := by
  intro blocked
  simp only [firstThere, Option.map_eq_none_iff, List.find?_eq_none, List.forall_mem_cons] at free
  have absent := free.2.1
  rw [FileTree.is_present_name_iff (file_name_of_definitions format)] at absent
  obtain ⟨present, inside⟩ :=
    (FileTree.is_directory_name_iff (file_name_of_definitions format)).1 blocked.2
  exact absent ⟨present, by simp [inside]⟩

theorem start_ends_of_written {result : Except Failure Unit} {later : Workspace}
    (free : force = false → firstThere workspace
      [(starterConfigName format, config), (starterDefinitionsName format, definitions)] = none)
    (written : WritesInTurn workspace
      [(starterConfigName format, config), (starterDefinitionsName format, definitions)]
      result later) :
    StartEnds force format config definitions workspace
      (result >>= fun _ => .ok (nextSteps format)) later := by
  have distinct := distinct_names format
  have configNamed := file_name_of_config format
  have definitionsNamed := file_name_of_definitions format
  -- how far writing came cuts the list of files somewhere; which list it is comes second
  generalize list : [(starterConfigName format, config),
    (starterDefinitionsName format, definitions)] = files at written
  cases written with
  | all _ writable =>
      subst list
      refine .started (can_start_iff.2 ⟨writable, free⟩) _ (Workspace.puts_put_all ?_ ?_ writable)
      · simp [configNamed, definitionsNamed]
      · simp [distinct]
  | upTo done name text rest fault writable blocked cause =>
      have unable : ¬CanStart force format workspace := by
        intro able
        have all : ∀ file ∈ [(starterConfigName format, config),
            (starterDefinitionsName format, definitions)], workspace.isWritable file.1 = true :=
          (can_start_iff.1 able).1
        rw [list] at all
        exact absurd (all (name, text) (by simp)) (by simp [blocked])
      match done, list with
      | [], list =>
          -- the configuration is in the way, and nothing has been written
          obtain ⟨⟨rfl, rfl⟩, rfl⟩ : (starterConfigName format = name ∧ config = text) ∧
              [(starterDefinitionsName format, definitions)] = rest := by simpa using list
          refine .refused _ unable fun halfway => ?_
          have writes := ((is_blocked_halfway_iff workspace format).1 halfway.2).1
          exact absurd writes (by simp [blocked])
      | [file], list =>
          -- the configuration is written, and the definitions are in the way
          obtain ⟨rfl, ⟨rfl, rfl⟩, rfl⟩ : (starterConfigName format, config) = file ∧
              (starterDefinitionsName format = name ∧ definitions = text) ∧ rest = [] := by
            simpa using list
          have writes : workspace.isWritable (starterConfigName format) = true :=
            writable (starterConfigName format, config) (by simp)
          have present := (FileTree.is_writable_iff.1 writes).1
          have halfway := (is_blocked_halfway_iff workspace format).2 ⟨writes, blocked, present⟩
          rw [cause present]
          refine .halfway ?_ halfway _ (Workspace.puts_put_all ?_ ?_ writable)
          · by_contra unforced
            exact not_blocked_of_free (free (by simpa using unforced)) halfway
          · simp [configNamed]
          · simp
      | _ :: _ :: more, list =>
          have sizes := congrArg List.length list
          simp at sizes

theorem init_ends (force : Bool)
    (made : starterFiles format =
      .ok [(starterConfigName format, config), (starterDefinitionsName format, definitions)])
    (workspace : Workspace) :
    StartEnds force format config definitions workspace
      (workspace.outcome (init force format)) (workspace.after (init force format)) := by
  by_cases free : force = false → firstThere workspace
      [(starterConfigName format, config), (starterDefinitionsName format, definitions)] = none
  · obtain ⟨ends, leaves⟩ := init_places made free
    rw [ends, leaves]
    refine start_ends_of_written free (write_all_ends ?_ ?_ workspace)
    · simp [file_name_of_config, file_name_of_definitions]
    · simp [distinct_names]
  · obtain ⟨unforced, there⟩ := Classical.not_imp.1 free
    obtain ⟨name, found⟩ := Option.ne_none_iff_exists'.1 there
    subst unforced
    obtain ⟨ends, leaves⟩ := init_refuses made found
    rw [ends, leaves]
    exact .refused _ (fun able => free (can_start_iff.1 able).2) (by simp)

structure StartGuarantees (force : Bool) (format : Document.Format) (config definitions : String)
    (workspace : Workspace) (result : Except Failure String) (later : Workspace) : Prop where
  succeeds : (∃ report, result = .ok report) ↔ CanStart force format workspace
  started : ∀ report, result = .ok report →
    report = nextSteps format ∧
      Workspace.PutsAll
        [(starterConfigName format, config), (starterDefinitionsName format, definitions)]
        workspace later
  unchanged : ∀ failure, result = .error failure →
    ¬(force = true ∧ IsBlockedHalfway workspace format) →
      ∀ location, later.tree.contentAt location = workspace.tree.contentAt location
  /-- The one way to change a file and fail. -/
  halfway : force = true → IsBlockedHalfway workspace format →
    result = .error (.unwritable .isDirectory) ∧
      Workspace.PutsAll [(starterConfigName format, config)] workspace later

theorem StartEnds.guarantees {result : Except Failure String} {later : Workspace}
    (ends : StartEnds force format config definitions workspace result later) :
    StartGuarantees force format config definitions workspace result later := by
  cases ends with
  | refused failure unable whole =>
      exact {
        succeeds := ⟨nofun, fun able => absurd able unable⟩
        started := nofun
        unchanged := fun _ _ _ _ => rfl
        halfway := fun forced blocked => absurd ⟨forced, blocked⟩ whole }
  | halfway forced blocked later puts =>
      have unable : ¬CanStart force format workspace := by
        intro able
        have free := able.free (starterDefinitionsName format) (by simp)
        rw [if_pos forced, blocked.2] at free
        cases free
      exact {
        succeeds := ⟨nofun, fun able => absurd able unable⟩
        started := nofun
        unchanged := fun _ _ whole => absurd ⟨forced, blocked⟩ whole
        halfway := fun _ _ => ⟨rfl, puts⟩ }
  | started able later puts =>
      exact {
        succeeds := ⟨fun _ => able, fun _ => ⟨_, rfl⟩⟩
        started := fun _ same => ⟨(Except.ok.inj same).symm, puts⟩
        unchanged := nofun
        halfway := fun forced blocked => by
          have free := able.free (starterDefinitionsName format) (by simp)
          rw [if_pos forced, blocked.2] at free
          cases free }

/-- A run that starts a project writes both files or changes none, unless it is forced where a
directory has taken the place of the second. -/
theorem init_guarantees (force : Bool) (format : Document.Format) (workspace : Workspace) :
    ∃ config definitions,
      starterText format starterConfig = .ok config ∧
        starterText format starterDefinitions = .ok definitions ∧
          StartGuarantees force format config definitions workspace
            (workspace.outcome (init force format)) (workspace.after (init force format)) := by
  obtain ⟨config, definitions, configMade, definitionsMade, made⟩ := starter_files_eq format
  exact ⟨config, definitions, configMade, definitionsMade,
    (init_ends force made workspace).guarantees⟩

def halfwayTaken : Workspace :=
  { tree :=
      { items :=
          [(["home", "enums.toml"], .directory),
            (["home", "enumwright.toml"], .file "mine".toUTF8),
            (["home"], .directory)] }
    directory := ["home"]
    clock := ⟨2024, 5, 6, 7, 8, 9, 0⟩ }

/-- A forced run can fail when it has replaced a file already. -/
theorem failed_start_replaces_config :
    halfwayTaken.outcome (init true .toml) = .error (.unwritable .isDirectory) ∧
      halfwayTaken.tree.contentAt ["home", "enumwright.toml"] = some "mine".toUTF8 ∧
      (halfwayTaken.after (init true .toml)).tree.contentAt ["home", "enumwright.toml"] ≠
        some "mine".toUTF8 := by
  have blocked : IsBlockedHalfway halfwayTaken .toml := ⟨by decide, by decide⟩
  obtain ⟨config, definitions, configMade, -, made⟩ := starter_files_eq .toml
  obtain ⟨fails, puts⟩ := (init_ends true made halfwayTaken).guarantees.halfway rfl blocked
  have written := puts.written (starterConfigName .toml, config) (by simp)
  have replaced :=
    ((FileTree.bytes_at_name_eq_some_iff (file_name_of_config .toml) _).1 written).2
  rw [puts.directory] at replaced
  refine ⟨fails, rfl, fun kept => ?_⟩
  have same : config = "mine" :=
    String.toByteArray_inj.1 (Option.some.inj (replaced.symm.trans kept))
  have chars := congrArg String.toList same
  rw [← Except.ok.inj configMade, chars_of_lines] at chars
  simp only [starterConfig, List.flatMap_cons] at chars
  -- the template begins with another character
  cases (List.cons.inj chars).1

end Guarantees

end Command

end EnumHeader

import EnumHeader.Command.Generate
import EnumHeader.Proofs.Command.Sources

/-!
# What generation does to files

A run ends in one of four ways: there is no header, the file holds the header already, the file
cannot be written, or it is written. From these follows what a run leaves of the files, and that a
file which was written is up to date until something changes what the header depends on. The output
can lead to a file that was not to be reached before, because the directories on its way are made:
whether it is one of the files in use is asked in the workspace that the run leaves.
-/

namespace EnumHeader

set_option autoImplicit false

namespace Workspace

def SharesFile (workspace : Workspace) (first second : Path) : Prop :=
  ∃ location, workspace.LeadsTo first location ∧ workspace.LeadsTo second location

instance (workspace : Workspace) (first second : Path) :
    Decidable (workspace.SharesFile first second) :=
  decidable_of_iff
    (∃ location ∈ (workspace.tree.locate workspace.directory first).toOption,
      workspace.tree.locate workspace.directory second = .ok location) <| by
    unfold SharesFile LeadsTo
    cases workspace.tree.locate workspace.directory first <;> simp [Except.toOption]

def atTime (workspace : Workspace) (clock : Timestamp) : Workspace :=
  { workspace with clock }

end Workspace

namespace Command

variable (sources : Sources) (output : Path) (workspace : Workspace)

/-- The configuration in use does not ask for the time. -/
def Sources.Unstamped (sources : Sources) (workspace : Workspace) : Prop :=
  ∀ config, workspace.outcome (resolveConfig sources) = .ok config → config.embedTimestamp = false

section Heading

theorem reads_only_header : ReadsOnly (header sources) := by
  refine (reads_only_load sources).bind fun loaded => ?_
  dsimp only
  split
  · exact (ReadsOnly.step fun _ => rfl).bind fun _ => .except _
  · exact .except _

theorem outcome_header :
    workspace.outcome (header sources) =
      workspace.outcome (load sources) >>= fun loaded =>
        Header.generate loaded.1 loaded.2
          (if loaded.1.embedTimestamp then some workspace.clock else none) := by
  unfold header
  rw [(reads_only_load sources).outcome_bind]
  congr 1
  funext loaded
  dsimp only
  split
  · rfl
  · rfl

theorem outcome_header_eq_ok_iff (unstamped : sources.Unstamped workspace) (text : String) :
    workspace.outcome (header sources) = .ok text ↔
      ∃ config definitions, workspace.outcome (load sources) = .ok (config, definitions) ∧
        Header.generate config definitions none = .ok text := by
  rw [outcome_header, Outcome.bind_eq_ok_iff, Prod.exists]
  refine exists₂_congr fun config definitions => and_congr_right fun loaded => ?_
  have resolved := ((outcome_load_eq_ok_iff sources workspace config definitions).1 loaded).1
  simp [unstamped config resolved]

end Heading

section Delivering

theorem holds_run (text : String) :
    StateT.run (holds output text) workspace =
      (pure (decide (workspace.tree.readText workspace.directory output = .ok text), workspace) :
        Id _) := by
  have answer : StateT.run (Host.readText output) workspace =
      (pure (workspace.tree.readText workspace.directory output, workspace) : Id _) := rfl
  rw [holds, StateT.run_bind, answer, pure_bind]
  cases workspace.tree.readText workspace.directory output with
  | ok found => simp [beq_eq_decide]
  | error fault => simp

theorem reads_only_holds (text : String) :
    ReadsOnly (liftM (holds output text : StateM Workspace Bool)) := by
  refine .step fun workspace => ?_
  rw [holds_run]
  rfl

theorem outcome_holds (text : String) :
    workspace.outcome (liftM (holds output text : StateM Workspace Bool)) =
      .ok (decide (workspace.tree.readText workspace.directory output = .ok text)) := by
  rw [Workspace.outcome_step, holds_run]
  rfl

theorem outcome_print :
    workspace.outcome (generate sources output .print) = workspace.outcome (header sources) := by
  unfold generate
  rw [(reads_only_header sources).outcome_bind]
  cases workspace.outcome (header sources) <;> rfl

theorem reads_only_generate {delivery : Delivery} (dry : delivery ≠ .write) :
    ReadsOnly (generate sources output delivery) := by
  refine (reads_only_header sources).bind fun text => ?_
  cases delivery with
  | write => exact absurd rfl dry
  | print => exact .pure _
  | check =>
      refine (reads_only_holds output text).bind fun held => ?_
      cases held with
      | true => exact .pure _
      | false => exact .throw _

theorem outcome_check_eq_ok_iff (reply : String) :
    workspace.outcome (generate sources output .check) = .ok reply ↔
      reply = "" ∧ ∃ text, workspace.outcome (header sources) = .ok text ∧
        workspace.bytesAt output = some text.toUTF8 := by
  unfold generate
  rw [(reads_only_header sources).outcome_bind, Outcome.bind_eq_ok_iff, ← exists_and_left]
  refine exists_congr fun text => ?_
  rw [and_left_comm]
  refine and_congr_right fun _ => ?_
  dsimp only
  rw [(reads_only_holds output text).outcome_bind, outcome_holds]
  by_cases held : workspace.bytesAt output = some text.toUTF8
  · rw [decide_eq_true ((FileTree.read_text_eq_ok_iff text).2 held)]
    simp [held, bind, Except.bind, eq_comm]
  · rw [decide_eq_false (mt (FileTree.read_text_eq_ok_iff text).1 held)]
    constructor
    · intro passed
      cases passed
    · rintro ⟨-, right⟩
      exact absurd right held

end Delivering

section Writing

variable {output workspace}

/-- The action writes the text to the path, or fails and adds directories at most. -/
def Delivers (action : ExceptT Failure (StateM Workspace) Unit) (path : Path) (text : String) :
    Prop :=
  ∀ workspace : Workspace,
    (∃ failure, workspace.outcome action = .error failure ∧
        workspace.Grows (workspace.after action)) ∨
      workspace.outcome action = .ok () ∧
        Workspace.Writes path text workspace (workspace.after action)

theorem delivers_write_text (path : Path) (text : String) :
    Delivers (do writing (← (Host.writeText path text : StateM Workspace _))) path text := by
  intro workspace
  have ends : workspace.outcome (liftM (Host.writeText path text : StateM Workspace _)) =
      .ok (workspace.writeBytes path text.toUTF8).1 := rfl
  have leaves : workspace.after (liftM (Host.writeText path text : StateM Workspace _)) =
      (workspace.writeBytes path text.toUTF8).2 := rfl
  rw [Workspace.outcome_bind, Workspace.after_bind, ends, leaves]
  cases written : (workspace.writeBytes path text.toUTF8).1 with
  | ok done =>
      exact Or.inr ⟨rfl, Workspace.writes_of_write_bytes written⟩
  | error fault =>
      refine Or.inl ⟨.unwritable fault, rfl, ?_⟩
      have kept := Workspace.write_bytes_of_error written
      change workspace.Grows (workspace.writeBytes path text.toUTF8).2
      rw [kept]
      exact .refl workspace

theorem Delivers.throw (failure : Failure) (path : Path) (text : String) :
    Delivers (MonadExcept.throw failure) path text :=
  fun workspace => Or.inl ⟨failure, rfl, .refl workspace⟩

theorem Delivers.after_step {Value : Type} {step : StateM Workspace Value}
    {next : Value → ExceptT Failure (StateM Workspace) Unit} {path : Path} {text : String}
    (grows : Host.OnlyGrows step) (rest : ∀ value, Delivers (next value) path text) :
    Delivers (liftM step >>= next) path text := by
  intro workspace
  have grown := grows workspace
  rw [Workspace.outcome_bind, Workspace.after_bind, Workspace.outcome_step, Workspace.after_step]
  rcases rest _ (step.run workspace).run.2 with ⟨failure, failed, later⟩ | ⟨done, writes⟩
  · exact Or.inl ⟨failure, failed, grown.trans later⟩
  · exact Or.inr ⟨done, writes.after_growth grown⟩

theorem delivers_write_below (path : Path) (text : String) :
    Delivers (writeBelow path text) path text := by
  have written := delivers_write_text path text
  unfold writeBelow
  dsimp only
  split
  next above _ =>
    split
    next =>
      refine Delivers.after_step (Host.only_grows_make_directories above) fun made => ?_
      cases made with
      | ok _ => exact written
      | error fault => exact .throw _ path text
    next => exact written
  next => exact written

end Writing

section Ending

/-- How a run that writes can end, and the workspace it leaves. -/
inductive WriteEnds (sources : Sources) (output : Path) (workspace : Workspace) :
    Except Failure String → Workspace → Prop where
  | noHeader (failure : Failure)
      (failed : workspace.outcome (header sources) = .error failure) :
      WriteEnds sources output workspace (.error failure) workspace
  | upToDate (text : String) (generated : workspace.outcome (header sources) = .ok text)
      (held : workspace.bytesAt output = some text.toUTF8) :
      WriteEnds sources output workspace (.ok "") workspace
  | unwritten (failure : Failure) (later : Workspace) (grown : workspace.Grows later) :
      WriteEnds sources output workspace (.error failure) later
  | written (text : String) (generated : workspace.outcome (header sources) = .ok text)
      (later : Workspace) (writes : Workspace.Writes output text workspace later) :
      WriteEnds sources output workspace (.ok "") later

theorem write_of_header {workspace : Workspace} {text : String}
    (generated : workspace.outcome (header sources) = .ok text) :
    (workspace.bytesAt output = some text.toUTF8 →
        workspace.outcome (generate sources output .write) = .ok "" ∧
          workspace.after (generate sources output .write) = workspace) ∧
      (workspace.bytesAt output ≠ some text.toUTF8 →
        workspace.outcome (generate sources output .write) =
            workspace.outcome (writeBelow output text >>= fun _ => pure "") ∧
          workspace.after (generate sources output .write) =
            workspace.after (writeBelow output text >>= fun _ => pure "")) := by
  have asked := outcome_holds output workspace text
  have readsHeader := reads_only_header sources
  have readsFile := reads_only_holds output text
  unfold generate
  rw [(readsHeader.run_bind generated).1, (readsHeader.run_bind generated).2]
  dsimp only
  rw [(readsFile.run_bind asked).1, (readsFile.run_bind asked).2]
  constructor
  · intro held
    rw [decide_eq_true ((FileTree.read_text_eq_ok_iff text).2 held)]
    exact ⟨rfl, rfl⟩
  · intro stale
    rw [decide_eq_false (mt (FileTree.read_text_eq_ok_iff text).1 stale)]
    exact ⟨rfl, rfl⟩

theorem write_of_no_header {workspace : Workspace} {failure : Failure}
    (failed : workspace.outcome (header sources) = .error failure) (delivery : Delivery) :
    workspace.outcome (generate sources output delivery) = .error failure ∧
      workspace.after (generate sources output delivery) = workspace := by
  unfold generate
  rw [(reads_only_header sources).outcome_bind, Workspace.after_bind, failed]
  exact ⟨rfl, reads_only_header sources workspace⟩

theorem generate_write_ends :
    WriteEnds sources output workspace (workspace.outcome (generate sources output .write))
      (workspace.after (generate sources output .write)) := by
  cases generated : workspace.outcome (header sources) with
  | error failure =>
      obtain ⟨ended, left⟩ := write_of_no_header sources output generated .write
      rw [ended, left]
      exact .noHeader failure generated
  | ok text =>
      obtain ⟨skipped, replaced⟩ := write_of_header sources output generated
      by_cases held : workspace.bytesAt output = some text.toUTF8
      · rw [(skipped held).1, (skipped held).2]
        exact .upToDate text generated held
      · rw [(replaced held).1, (replaced held).2, Workspace.outcome_bind, Workspace.after_bind]
        rcases delivers_write_below output text workspace with
          ⟨failure, failed, grown⟩ | ⟨done, writes⟩
        · rw [failed]
          exact .unwritten failure _ grown
        · rw [done]
          exact .written text generated _ writes

theorem settled_of_held {workspace : Workspace} {text : String}
    (generated : workspace.outcome (header sources) = .ok text)
    (held : workspace.bytesAt output = some text.toUTF8) {delivery : Delivery}
    (delivered : delivery ≠ .print) :
    workspace.outcome (generate sources output delivery) = .ok "" ∧
      workspace.after (generate sources output delivery) = workspace := by
  cases delivery with
  | print => exact absurd rfl delivered
  | check =>
      have passed := (outcome_check_eq_ok_iff sources output workspace "").2
        ⟨rfl, text, generated, held⟩
      exact ⟨passed, reads_only_generate sources output (by decide) workspace⟩
  | write => exact (write_of_header sources output generated).1 held

theorem outcome_header_of_kept {workspace later : Workspace}
    (unstamped : sources.Unstamped workspace)
    (sameConfig : sources.configFile later = sources.configFile workspace)
    (kept : ∀ file ∈ sources.files workspace, ∀ content,
      workspace.bytesAt file = some content → later.bytesAt file = some content) {text : String}
    (generated : workspace.outcome (header sources) = .ok text) :
    later.outcome (header sources) = .ok text := by
  obtain ⟨config, definitions, loaded, rendered⟩ :=
    (outcome_header_eq_ok_iff sources workspace unstamped text).1 generated
  have resolved := ((outcome_load_eq_ok_iff sources workspace config definitions).1 loaded).1
  rw [outcome_header, outcome_load_of_kept sameConfig kept loaded]
  change Header.generate config definitions
    (if config.embedTimestamp then some later.clock else none) = .ok text
  rw [unstamped config resolved]
  exact rendered

theorem outcome_header_at_time {workspace : Workspace} (unstamped : sources.Unstamped workspace)
    {text : String} (generated : workspace.outcome (header sources) = .ok text)
    (clock : Timestamp) : (workspace.atTime clock).outcome (header sources) = .ok text := by
  refine outcome_header_of_kept sources unstamped ?_ ?_ generated
  · rfl
  · exact fun _ _ _ held => held

end Ending

section Guarantees

def afterWrite (sources : Sources) (output : Path) (workspace : Workspace) : Workspace :=
  workspace.after (generate sources output .write)

def Prints (sources : Sources) (output : Path) (workspace : Workspace) (text : String) : Prop :=
  ∀ clock, (workspace.atTime clock).outcome (generate sources output .print) = .ok text

structure FileGuarantees (sources : Sources) (output : Path) (workspace : Workspace) : Prop where
  /-- A run that fails changes the content of no file. -/
  failing : ∀ delivery failure,
    workspace.outcome (generate sources output delivery) = .error failure →
      ∀ location, (workspace.after (generate sources output delivery)).tree.contentAt location =
        workspace.tree.contentAt location
  /-- Printing and checking change nothing at all. -/
  dry : ∀ delivery, delivery ≠ .write →
    workspace.after (generate sources output delivery) = workspace
  /-- A write that succeeds leaves the text that is printed, and every other file as it was. -/
  written : ∀ reply, workspace.outcome (generate sources output .write) = .ok reply →
    ∃ text target, Prints sources output workspace text ∧
      (afterWrite sources output workspace).LeadsTo output target ∧
      (afterWrite sources output workspace).tree.contentAt target = some text.toUTF8 ∧
      ∀ location, location ≠ target →
        (afterWrite sources output workspace).tree.contentAt location =
          workspace.tree.contentAt location
  /-- The check succeeds where a text is printed and the file holds it. -/
  checked : (∃ reply, workspace.outcome (generate sources output .check) = .ok reply) ↔
    ∃ text, Prints sources output workspace text ∧
      workspace.bytesAt output = some text.toUTF8
  /-- After a write that succeeds, a check and a further write succeed and change nothing, unless
  the output is a file in use or has the name under which a configuration is found. -/
  settled : workspace.WellFormed → ∀ reply,
    workspace.outcome (generate sources output .write) = .ok reply →
      output.segments.getLast? ≠ some configName →
        (∀ file ∈ sources.files workspace,
          ¬(afterWrite sources output workspace).SharesFile output file) →
          ∀ clock delivery, delivery ≠ .print →
            ((afterWrite sources output workspace).atTime clock).outcome
                (generate sources output delivery) = .ok "" ∧
              ((afterWrite sources output workspace).atTime clock).after
                  (generate sources output delivery) =
                (afterWrite sources output workspace).atTime clock

variable {sources output workspace}

theorem contents_of_failed_write {failure : Failure} {later : Workspace}
    (ends : WriteEnds sources output workspace (.error failure) later) (location : Location) :
    later.tree.contentAt location = workspace.tree.contentAt location := by
  cases ends with
  | noHeader failure failed => rfl
  | unwritten failure later grown => exact grown.tree.contents location

theorem writes_of_write {reply : String} {later : Workspace}
    (ends : WriteEnds sources output workspace (.ok reply) later) :
    ∃ text, workspace.outcome (header sources) = .ok text ∧
      Workspace.Writes output text workspace later := by
  cases ends with
  | upToDate text generated held => exact ⟨text, generated, Workspace.writes_of_held held⟩
  | written text generated later writes => exact ⟨text, generated, writes⟩

theorem prints_iff (unstamped : sources.Unstamped workspace) (text : String) :
    Prints sources output workspace text ↔ workspace.outcome (header sources) = .ok text := by
  constructor
  · intro prints
    have printed := prints workspace.clock
    rw [outcome_print] at printed
    exact printed
  · intro generated clock
    rw [outcome_print]
    exact outcome_header_at_time sources unstamped generated clock

theorem settled_of_write (unstamped : sources.Unstamped workspace)
    (wellFormed : workspace.WellFormed) {reply : String} {later : Workspace}
    (ends : WriteEnds sources output workspace (.ok reply) later)
    (named : output.segments.getLast? ≠ some configName)
    (apart : ∀ file ∈ sources.files workspace, ¬later.SharesFile output file)
    (clock : Timestamp) {delivery : Delivery} (delivered : delivery ≠ .print) :
    (later.atTime clock).outcome (generate sources output delivery) = .ok "" ∧
      (later.atTime clock).after (generate sources output delivery) = later.atTime clock := by
  obtain ⟨text, generated, writes⟩ := writes_of_write ends
  obtain ⟨target, leads, content, changed⟩ := writes.written
  have laterForm := writes.wellFormed wellFormed
  have outside : later.tree.item? target ≠ some .directory := by
    rw [(FileTree.content_at_eq_some_iff _).1 content]
    simp
  -- what is no directory is named last by its path, so the two conditions on the name are one
  have targetNamed : target.getLast? ≠ some configName := by
    obtain ⟨above, name, last, rfl, -⟩ :=
      FileTree.named_of_locate laterForm.closed laterForm.present leads outside
    rw [List.getLast?_concat, ← last]
    exact named
  have sameConfig : sources.configFile (later.atTime clock) = sources.configFile workspace :=
    config_file_of_changes_only wellFormed changed writes.directory targetNamed
  -- the paths in use lead where they led, and not to the file that was written
  have kept : ∀ file ∈ sources.files workspace, ∀ bytes, workspace.bytesAt file = some bytes →
      (later.atTime clock).bytesAt file = some bytes := by
    intro file inUse bytes held
    refine FileTree.bytes_at_of_changes_only changed ?_ (writes.directory ▸ held)
    intro reached
    exact apart file inUse ⟨target, leads, reached⟩
  have regenerated := outcome_header_of_kept sources unstamped sameConfig kept generated
  have held : (later.atTime clock).bytesAt output = some text.toUTF8 :=
    (FileTree.bytes_at_eq_some_iff _).2 ⟨target, leads, content⟩
  exact settled_of_held sources output regenerated held delivered

/-- Generation without a time in the header keeps all of this, whatever the workspace holds and
whichever sources and output are chosen. -/
theorem generate_guarantees (sources : Sources) (output : Path) (workspace : Workspace)
    (unstamped : sources.Unstamped workspace) : FileGuarantees sources output workspace where
  failing delivery failure failed location := by
    by_cases dry : delivery = .write
    · subst dry
      have ends := generate_write_ends sources output workspace
      rw [failed] at ends
      exact contents_of_failed_write ends location
    · rw [reads_only_generate sources output dry workspace]
  dry delivery dry := reads_only_generate sources output dry workspace
  written reply succeeded := by
    have ends := generate_write_ends sources output workspace
    rw [succeeded] at ends
    obtain ⟨text, generated, writes⟩ := writes_of_write ends
    obtain ⟨target, leads, content, changed⟩ := writes.written
    exact ⟨text, target, (prints_iff unstamped text).2 generated, leads, content, changed.others⟩
  checked := by
    simp only [outcome_check_eq_ok_iff, prints_iff unstamped, exists_eq_left]
  settled wellFormed reply succeeded named apart clock delivery delivered := by
    have ends := generate_write_ends sources output workspace
    rw [succeeded] at ends
    exact settled_of_write unstamped wellFormed ends named apart clock delivered

/-- A project with its configuration one directory above and no directory for the header yet. -/
def project : Workspace where
  tree :=
    ⟨[(["home"], .directory), (["home", "src"], .directory),
      (["home", "enumwright.toml"], .file "indent = \"\\t\"\n".toUTF8),
      (["home", "src", "enums.toml"], .file
        "[[value_enums]]\nname = \"Mode\"\nentries = [\x7b name = \"Off\" \x7d]\n".toUTF8)]⟩
  directory := ["home", "src"]
  clock := ⟨2024, 2, 29, 12, 0, 0, 0⟩

def projectSources : Sources where
  definitions := ⟨.bare, ["enums.toml"]⟩

def projectHeader : Path :=
  ⟨.bare, ["..", "include", "enums.h"]⟩

theorem project_well_formed : project.WellFormed where
  closed := by
    refine FileTree.closed_of_items fun entry member => ?_
    simp only [project, List.mem_cons, List.not_mem_nil, or_false] at member
    rcases member with rfl | rfl | rfl | rfl <;> rfl
  present := rfl
  plain := by decide

theorem guarantees_of_project :
    projectSources.Unstamped project ∧ project.WellFormed ∧
      project.outcome (generate projectSources projectHeader .write) = .ok "" ∧
      projectHeader.segments.getLast? ≠ some configName ∧
      (∀ file ∈ projectSources.files project,
        ¬(afterWrite projectSources projectHeader project).SharesFile projectHeader file) ∧
      FileGuarantees projectSources projectHeader project ∧
      ((afterWrite projectSources projectHeader project).atTime ⟨2030, 1, 1, 0, 0, 0, 0⟩).outcome
        (generate projectSources projectHeader .check) = .ok "" := by
  have resolved : (project.outcome (resolveConfig projectSources)).toOption.map
      (·.embedTimestamp) = some false := by decide +kernel
  have unstamped : projectSources.Unstamped project := by
    intro config found
    rw [found] at resolved
    exact Option.some.inj resolved
  have succeeded : project.outcome (generate projectSources projectHeader .write) = .ok "" := by
    decide +kernel
  have named : projectHeader.segments.getLast? ≠ some configName := by decide
  have apart : ∀ file ∈ projectSources.files project,
      ¬(afterWrite projectSources projectHeader project).SharesFile projectHeader file := by
    decide +kernel
  have guarantees := generate_guarantees projectSources projectHeader project unstamped
  have settled := guarantees.settled project_well_formed "" succeeded named apart
  exact ⟨unstamped, project_well_formed, succeeded, named, apart, guarantees,
    (settled _ .check (by decide)).1⟩

end Guarantees

end Command

end EnumHeader

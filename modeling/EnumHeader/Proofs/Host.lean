import EnumHeader.Host
import EnumHeader.Proofs.FileTree

/-!
# What becomes of a workspace

However far it gets, making a directory and those above it adds directories to the workspace and
changes nothing else. Writing a text changes one file. Both keep a workspace well-formed.
-/

namespace EnumHeader

set_option autoImplicit false

namespace Workspace

variable {workspace earlier middle later : Workspace} {path : Path} {text : String}

/-- Whatever is there has its directory there, the current directory included, and the names of the
current directory lead straight to it. -/
structure WellFormed (workspace : Workspace) : Prop where
  closed : workspace.tree.Closed
  present : workspace.tree.item? workspace.directory = some .directory
  plain : ∀ name ∈ workspace.directory, Path.IsPlain name

def bytesAt (workspace : Workspace) (path : Path) : Option ByteArray :=
  workspace.tree.bytesAt workspace.directory path

def LeadsTo (workspace : Workspace) (path : Path) (location : Location) : Prop :=
  workspace.tree.locate workspace.directory path = .ok location

structure Grows (earlier later : Workspace) : Prop where
  tree : earlier.tree.Grows later.tree
  directory : later.directory = earlier.directory
  wellFormed : earlier.WellFormed → later.WellFormed

/-- The text was written to the file that the path leads to, and no other file changed. -/
structure Writes (path : Path) (text : String) (earlier later : Workspace) : Prop where
  written : ∃ target, later.LeadsTo path target ∧
    later.tree.contentAt target = some text.toUTF8 ∧
    FileTree.ChangesOnly target earlier.tree later.tree
  directory : later.directory = earlier.directory
  wellFormed : earlier.WellFormed → later.WellFormed

theorem Grows.refl (workspace : Workspace) : workspace.Grows workspace :=
  ⟨.refl _, rfl, id⟩

theorem Grows.trans (first : earlier.Grows middle) (second : middle.Grows later) :
    earlier.Grows later :=
  ⟨first.tree.trans second.tree, second.directory.trans first.directory,
    second.wellFormed ∘ first.wellFormed⟩

theorem Writes.after_growth (grown : earlier.Grows middle)
    (writes : Writes path text middle later) : Writes path text earlier later := by
  obtain ⟨target, leads, held, changed⟩ := writes.written
  exact ⟨⟨target, leads, held, changed.after_growth grown.tree⟩,
    writes.directory.trans grown.directory, writes.wellFormed ∘ grown.wellFormed⟩

theorem writes_of_held (held : workspace.bytesAt path = some text.toUTF8) :
    Writes path text workspace workspace := by
  obtain ⟨target, leads, content⟩ := (FileTree.bytes_at_eq_some_iff _).1 held
  have unchanged : FileTree.ChangesOnly target workspace.tree workspace.tree :=
    ⟨fun _ found => found, fun _ _ => rfl⟩
  exact ⟨⟨target, leads, content, unchanged⟩, rfl, id⟩

theorem well_formed_of_closed {tree : FileTree} (wellFormed : workspace.WellFormed)
    (closed : tree.Closed) (keeps : FileTree.KeepsDirectories workspace.tree tree) :
    WellFormed { workspace with tree } :=
  ⟨closed, keeps _ wellFormed.present, wellFormed.plain⟩

theorem grows_of_make_directory (path : Path) (workspace : Workspace) :
    workspace.Grows (workspace.makeDirectory path).2 := by
  unfold makeDirectory
  split
  next tree made =>
    have grown := FileTree.grows_of_make_directory made
    refine ⟨grown, rfl, fun wellFormed => ?_⟩
    have closed := FileTree.closed_of_make_directory wellFormed.closed wellFormed.present made
    exact well_formed_of_closed wellFormed closed grown.directories
  next => exact .refl workspace

theorem writes_of_write_bytes
    (written : (workspace.writeBytes path text.toUTF8).1 = .ok ()) :
    Writes path text workspace (workspace.writeBytes path text.toUTF8).2 := by
  unfold writeBytes at written ⊢
  split at written
  next tree put =>
    obtain ⟨target, leads, held, changed⟩ := FileTree.changes_only_of_write put
    refine ⟨⟨target, leads, held, changed⟩, rfl, fun wellFormed => ?_⟩
    have closed := FileTree.closed_of_write wellFormed.closed wellFormed.present put
    exact well_formed_of_closed wellFormed closed changed.directories
  next => cases written

theorem write_bytes_of_error {fault : FileTree.Fault}
    (refused : (workspace.writeBytes path text.toUTF8).1 = .error fault) :
    (workspace.writeBytes path text.toUTF8).2 = workspace := by
  unfold writeBytes at refused ⊢
  split at refused
  next => cases refused
  next => rfl

end Workspace

namespace Host

variable {Value Result : Type}

def OnlyGrows (step : StateM Workspace Value) : Prop :=
  ∀ workspace : Workspace, workspace.Grows (step.run workspace).run.2

theorem OnlyGrows.pure (value : Value) : OnlyGrows (Pure.pure value) :=
  fun workspace => .refl workspace

theorem OnlyGrows.bind {step : StateM Workspace Value} {next : Value → StateM Workspace Result}
    (first : OnlyGrows step) (rest : ∀ value, OnlyGrows (next value)) :
    OnlyGrows (step >>= next) := by
  intro workspace
  exact (first workspace).trans (rest _ _)

theorem only_grows_ensure_directory (path : Path) :
    OnlyGrows (ensureDirectory path : StateM Workspace _) := by
  have made : OnlyGrows (makeDirectory path : StateM Workspace _) :=
    Workspace.grows_of_make_directory path
  refine made.bind fun result => ?_
  cases result with
  | ok done => exact .pure _
  | error fault =>
      have asked : OnlyGrows (isDirectory path : StateM Workspace _) := fun workspace =>
        .refl workspace
      refine asked.bind fun found => ?_
      cases found <;> exact .pure _

theorem only_grows_ensure_first (paths : List Path) :
    OnlyGrows (ensureFirst paths : StateM Workspace _) := by
  induction paths with
  | nil => exact .pure _
  | cons path above ih =>
      unfold ensureFirst
      split
      next => exact .pure _
      next =>
        refine (only_grows_ensure_directory path).bind fun result => ?_
        split
        next =>
          refine ih.bind fun higher => ?_
          cases higher with
          | ok made => exact only_grows_ensure_directory path
          | error fault => exact .pure _
        next => exact .pure _

theorem only_grows_make_directories (path : Path) :
    OnlyGrows (makeDirectories path : StateM Workspace _) :=
  only_grows_ensure_first path.ancestors

end Host

end EnumHeader

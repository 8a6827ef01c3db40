import EnumHeader.Proofs.FileTree
import EnumHeader.Proofs.Host

/-!
# Writing files to the current directory

A name that the system takes as it stands leads to a place in the current directory, and a file can
be written there unless a directory has taken the place. Files of different names do not get in each
other's way: what can be written at first can be written after the others, and all of them hold
their texts in the end.
-/

namespace EnumHeader

set_option autoImplicit false

namespace FileTree

variable {tree : FileTree} {here : Location} {name : String}

/-- A name that the system takes as it stands for a place in the current directory. -/
structure IsFileName (name : String) : Prop where
  plain : Path.IsPlain name
  short : name.utf8ByteSize ≤ maxNameSize
  readable : checkPath ⟨.bare, [name]⟩ = .ok ()
  path : Path.ofText name = ⟨.bare, [name]⟩

def isDirectoryAt (tree : FileTree) (location : Location) : Bool :=
  match tree.item? location with
  | some .directory => true
  | some (.file _) | none => false

def isWritable (tree : FileTree) (here : Location) (name : String) : Bool :=
  tree.isDirectoryAt here && !tree.isDirectoryAt (here ++ [name])

theorem is_directory_at_iff {location : Location} :
    tree.isDirectoryAt location = true ↔ tree.item? location = some .directory := by
  unfold isDirectoryAt
  split
  next found => simp [found]
  next found => simp [found]
  next found => simp [found]

theorem is_writable_iff :
    tree.isWritable here name = true ↔
      tree.item? here = some .directory ∧ tree.item? (here ++ [name]) ≠ some .directory := by
  simp [isWritable, ← is_directory_at_iff]

section Naming

variable (named : IsFileName name)
include named

theorem locate_name_eq_ok_iff (location : Location) :
    tree.locate here (Path.ofText name) = .ok location ↔
      tree.item? here = some .directory ∧ here ++ [name] = location := by
  have single : [name].foldlM tree.step here = tree.step here name := by simp
  rw [named.path, locate_eq_ok_iff, single, step_plain_iff named.plain]
  simp [named.readable, named.short, Path.IsEmpty]

theorem find_name_eq_ok_iff (item : Item) :
    tree.find here (Path.ofText name) = .ok item ↔
      tree.item? here = some .directory ∧ tree.item? (here ++ [name]) = some item := by
  unfold find
  simp only [Outcome.bind_eq_ok_iff, locate_name_eq_ok_iff named, and_assoc, exists_and_left,
    exists_eq_left']
  cases tree.item? (here ++ [name]) with
  | none => simp
  | some found => simp

theorem is_present_name_iff :
    tree.isPresent here (Path.ofText name) = true ↔
      tree.item? here = some .directory ∧ tree.item? (here ++ [name]) ≠ none := by
  have present : tree.isPresent here (Path.ofText name) = true ↔
      ∃ item, tree.find here (Path.ofText name) = .ok item := by
    unfold isPresent
    cases tree.find here (Path.ofText name) <;> simp [Except.toOption]
  rw [present, Option.ne_none_iff_exists', ← exists_and_left]
  exact exists_congr (find_name_eq_ok_iff named)

theorem is_directory_name_iff :
    tree.isDirectory here (Path.ofText name) = true ↔
      tree.item? here = some .directory ∧ tree.item? (here ++ [name]) = some .directory := by
  rw [← find_name_eq_ok_iff named]
  unfold isDirectory
  split
  next found => simp [found]
  next other => simpa using other

theorem bytes_at_name_eq_some_iff (content : ByteArray) :
    tree.bytesAt here (Path.ofText name) = some content ↔
      tree.item? here = some .directory ∧ tree.contentAt (here ++ [name]) = some content := by
  simp [bytes_at_eq_some_iff, locate_name_eq_ok_iff named, and_assoc]

theorem not_ends_in_slash_name : ¬(Path.ofText name).EndsInSlash := by
  rw [named.path]
  intro ends
  obtain rfl : name = "" := by simpa [Path.EndsInSlash] using ends
  exact absurd named.plain.1 (by decide)

theorem write_of_writable (content : ByteArray) (writable : tree.isWritable here name = true) :
    tree.write here (Path.ofText name) content =
      .ok (tree.put (here ++ [name]) (.file content)) := by
  obtain ⟨present, outside⟩ := is_writable_iff.1 writable
  have readable : checkPath (Path.ofText name) = .ok () := named.path ▸ named.readable
  have located : tree.locate here (Path.ofText name) = .ok (here ++ [name]) :=
    (locate_name_eq_ok_iff named _).2 ⟨present, rfl⟩
  have slashless := not_ends_in_slash_name named
  unfold write
  rw [readable, Path.without_slash_of_name slashless, located]
  simp only [bind, Except.bind, slashless, if_false]
  split
  next found => exact absurd found outside
  next => rfl
  next => rfl

theorem write_of_not_writable (content : ByteArray) (blocked : tree.isWritable here name = false) :
    ∃ fault, tree.write here (Path.ofText name) content = .error fault ∧
      (tree.item? here = some .directory → fault = .isDirectory) := by
  have readable : checkPath (Path.ofText name) = .ok () := named.path ▸ named.readable
  have slashless := not_ends_in_slash_name named
  unfold write
  rw [readable, Path.without_slash_of_name slashless]
  simp only [bind, Except.bind]
  cases located : tree.locate here (Path.ofText name) with
  | error fault =>
      refine ⟨fault, rfl, fun present => ?_⟩
      cases located.symm.trans ((locate_name_eq_ok_iff named _).2 ⟨present, rfl⟩)
  | ok location =>
      obtain ⟨present, rfl⟩ := (locate_name_eq_ok_iff named _).1 located
      have inside : tree.item? (here ++ [name]) = some .directory := by
        by_contra outside
        exact absurd (is_writable_iff.2 ⟨present, outside⟩) (by simp [blocked])
      simp only [inside]
      exact ⟨.isDirectory, rfl, fun _ => rfl⟩

end Naming

end FileTree

namespace Workspace

variable {workspace : Workspace} {name other text : String}

def isWritable (workspace : Workspace) (name : String) : Bool :=
  workspace.tree.isWritable workspace.directory name

def put (workspace : Workspace) (name text : String) : Workspace :=
  { workspace with
    tree := workspace.tree.put (workspace.directory ++ [name]) (.file text.toUTF8) }

def putAll (workspace : Workspace) (files : List (String × String)) : Workspace :=
  files.foldl (fun before file => before.put file.1 file.2) workspace

@[simp]
theorem directory_put (workspace : Workspace) (name text : String) :
    (workspace.put name text).directory = workspace.directory :=
  rfl

@[simp]
theorem directory_put_all (workspace : Workspace) (files : List (String × String)) :
    (workspace.putAll files).directory = workspace.directory := by
  induction files generalizing workspace with
  | nil => rfl
  | cons file rest ih => exact (ih _).trans (directory_put workspace file.1 file.2)

theorem item_put (text : String) (writable : workspace.isWritable name = true)
    (location : Location) :
    (workspace.put name text).tree.item? location =
      if location = workspace.directory ++ [name] then some (.file text.toUTF8)
      else workspace.tree.item? location :=
  FileTree.item_put_outside (FileTree.is_writable_iff.1 writable).2 _ location

theorem is_writable_put (writable : workspace.isWritable name = true) (apart : other ≠ name) :
    (workspace.put name text).isWritable other = workspace.isWritable other := by
  have here := item_put text writable workspace.directory
  have there := item_put text writable (workspace.directory ++ [other])
  rw [if_neg (by simp)] at here
  rw [if_neg (by simpa using apart)] at there
  rw [Bool.eq_iff_iff]
  unfold isWritable
  rw [FileTree.is_writable_iff, FileTree.is_writable_iff, ← here, ← there]
  rfl

theorem write_bytes_of_writable (named : FileTree.IsFileName name)
    (writable : workspace.isWritable name = true) :
    workspace.writeBytes (Path.ofText name) text.toUTF8 = (.ok (), workspace.put name text) := by
  unfold writeBytes
  rw [FileTree.write_of_writable named _ writable]
  rfl

theorem write_bytes_of_not_writable (text : String) (named : FileTree.IsFileName name)
    (blocked : workspace.isWritable name = false) :
    ∃ fault, workspace.writeBytes (Path.ofText name) text.toUTF8 = (.error fault, workspace) ∧
      (workspace.tree.item? workspace.directory = some .directory → fault = .isDirectory) := by
  obtain ⟨fault, refused, cause⟩ := FileTree.write_of_not_writable named text.toUTF8 blocked
  refine ⟨fault, ?_, cause⟩
  unfold writeBytes
  rw [refused]

structure PutsAll (files : List (String × String)) (earlier later : Workspace) : Prop where
  directory : later.directory = earlier.directory
  written : ∀ file ∈ files, later.bytesAt (Path.ofText file.1) = some file.2.toUTF8
  others : ∀ location, (∀ file ∈ files, location ≠ earlier.directory ++ [file.1]) →
    later.tree.contentAt location = earlier.tree.contentAt location

theorem items_of_put_all {files : List (String × String)}
    (distinct : (files.map Prod.fst).Nodup)
    (writable : ∀ file ∈ files, workspace.isWritable file.1 = true) :
    (∀ file ∈ files, (workspace.putAll files).tree.item? (workspace.directory ++ [file.1]) =
        some (.file file.2.toUTF8)) ∧
      ∀ location, (∀ file ∈ files, location ≠ workspace.directory ++ [file.1]) →
        (workspace.putAll files).tree.item? location = workspace.tree.item? location := by
  induction files generalizing workspace with
  | nil => exact ⟨nofun, fun _ _ => rfl⟩
  | cons file rest ih =>
      simp only [List.map_cons, List.nodup_cons, List.forall_mem_cons] at distinct writable ⊢
      have apart : ∀ other ∈ rest, other.1 ≠ file.1 := by
        intro other member same
        exact distinct.1 (same ▸ List.mem_map_of_mem member)
      obtain ⟨written, others⟩ := @ih (workspace.put file.1 file.2) distinct.2
        fun other member =>
          (is_writable_put writable.1 (apart other member)).trans (writable.2 other member)
      have put := item_put file.2 writable.1
      refine ⟨⟨?_, written⟩, ?_⟩
      · -- the later files have other names, so they leave the first one alone
        have kept := others (workspace.directory ++ [file.1]) fun other member same =>
          apart other member (by simpa [put] using same.symm)
        exact kept.trans ((put _).trans (if_pos rfl))
      · rintro location ⟨notFirst, notLater⟩
        exact (others location notLater).trans ((put location).trans (if_neg notFirst))

theorem puts_put_all {files : List (String × String)}
    (named : ∀ file ∈ files, FileTree.IsFileName file.1)
    (distinct : (files.map Prod.fst).Nodup)
    (writable : ∀ file ∈ files, workspace.isWritable file.1 = true) :
    PutsAll files workspace (workspace.putAll files) := by
  obtain ⟨written, others⟩ := items_of_put_all distinct writable
  have stays := directory_put_all workspace files
  refine ⟨stays, fun file member => ?_, fun location apart => ?_⟩
  · have here := others workspace.directory fun other _ => by simp
    have present := (FileTree.is_writable_iff.1 (writable file member)).1
    refine (FileTree.bytes_at_name_eq_some_iff (named file member) _).2 ⟨?_, ?_⟩
    · rw [stays, here, present]
    · rw [FileTree.content_at_eq_some_iff, stays, written file member]
  · unfold FileTree.contentAt
    rw [others location apart]

end Workspace

end EnumHeader

import EnumHeader.FileTree
import EnumHeader.Proofs.Outcome
import EnumHeader.Proofs.Path

/-!
# What a path leads to

A path is followed through directories only. A tree that keeps the directories of another therefore
leads every path that arrived somewhere to the same place, whatever became of the files. The other
way round a directory that was added can open a path that led nowhere before, unless the path comes
down from the root by plain names: then the tree it leads into has held every directory on the way.
-/

namespace EnumHeader

set_option autoImplicit false

namespace FileTree

variable {tree earlier middle later : FileTree} {here location target : Location} {path : Path}

def bytesAt (tree : FileTree) (here : Location) (path : Path) : Option ByteArray :=
  match tree.locate here path with
  | .ok location => tree.contentAt location
  | .error _ => none

section Reading

theorem content_at_eq_some_iff (content : ByteArray) :
    tree.contentAt location = some content ↔ tree.item? location = some (.file content) := by
  unfold contentAt
  split
  next other found => simp [found]
  next found => simp [found]
  next found => simp [found]

theorem bytes_at_eq_some_iff (content : ByteArray) :
    tree.bytesAt here path = some content ↔
      ∃ location, tree.locate here path = .ok location ∧
        tree.contentAt location = some content := by
  unfold bytesAt
  cases tree.locate here path with
  | error fault => simp
  | ok location => simp

theorem find_eq_file_iff (content : ByteArray) :
    tree.find here path = .ok (.file content) ↔ tree.bytesAt here path = some content := by
  unfold find
  simp only [Outcome.bind_eq_ok_iff, bytes_at_eq_some_iff, content_at_eq_some_iff]
  refine exists_congr fun location => and_congr_right fun _ => ?_
  cases tree.item? location with
  | none => simp
  | some item => simp

theorem is_file_iff :
    tree.isFile here path = true ↔ ∃ content, tree.bytesAt here path = some content := by
  simp only [← find_eq_file_iff]
  unfold isFile
  split
  next content found => simp [found]
  next other => simpa using other

theorem read_text_eq_ok_iff (text : String) :
    tree.readText here path = .ok text ↔ tree.bytesAt here path = some text.toUTF8 := by
  have decoded (content : ByteArray) :
      String.fromUTF8? content = some text ↔ content = text.toUTF8 := by
    unfold String.fromUTF8?
    constructor
    · intro found
      split at found
      next valid =>
        obtain rfl := Option.some.inj found
        rfl
      next => cases found
    · rintro rfl
      rw [String.toUTF8_eq_toByteArray, dif_pos text.isValidUTF8]
      rfl
  rw [← find_eq_file_iff]
  unfold readText
  rw [Outcome.bind_eq_ok_iff]
  constructor
  · rintro ⟨item, found, read⟩
    cases item with
    | directory => cases read
    | file content =>
        dsimp only at read
        split at read
        next other valid =>
          obtain rfl := Except.ok.inj read
          rw [found, (decoded content).1 valid]
        next => cases read
  · intro found
    refine ⟨_, found, ?_⟩
    simp only [(decoded _).2 rfl]

end Reading

section Steps

def KeepsDirectories (earlier later : FileTree) : Prop :=
  ∀ location, earlier.item? location = some .directory → later.item? location = some .directory

/-- Whatever is in a tree has its directory there. -/
def Closed (tree : FileTree) : Prop :=
  ∀ location, tree.item? location ≠ none → tree.item? location.dropLast = some .directory

theorem closed_of_items
    (above : ∀ entry ∈ tree.items, tree.item? entry.1.dropLast = some .directory) :
    tree.Closed := by
  intro location present
  cases location with
  | nil => rfl
  | cons name names =>
      obtain ⟨item, found⟩ := Option.ne_none_iff_exists'.1 present
      obtain ⟨before, after, split, -⟩ := List.lookup_eq_some_iff.1 found
      exact above (name :: names, item) (by simp [split])

theorem directory_of_step {next : Location} {segment : String}
    (stepped : tree.step location segment = .ok next) :
    tree.item? location = some .directory := by
  unfold step at stepped
  split at stepped
  next => cases stepped
  next => cases stepped
  next found => exact found

theorem step_plain_iff {name : String} (plain : Path.IsPlain name) (next : Location) :
    tree.step location name = .ok next ↔
      tree.item? location = some .directory ∧ name.utf8ByteSize ≤ maxNameSize ∧
        location ++ [name] = next := by
  constructor
  · intro stepped
    have found := directory_of_step stepped
    unfold step at stepped
    simp only [found, plain.1, plain.2, Bool.false_eq_true, if_false] at stepped
    split at stepped
    next => cases stepped
    next short => exact ⟨found, Nat.le_of_not_lt short, Except.ok.inj stepped⟩
  · rintro ⟨found, short, rfl⟩
    unfold step
    simp only [found, plain.1, plain.2, Bool.false_eq_true, if_false, Nat.not_lt.2 short]

theorem steps_of_keeps (keeps : KeepsDirectories earlier later) (segments : List String)
    (start location : Location) (arrived : segments.foldlM earlier.step start = .ok location) :
    segments.foldlM later.step start = .ok location := by
  induction segments generalizing start with
  | nil => exact arrived
  | cons segment rest ih =>
      rw [List.foldlM_cons, Outcome.bind_eq_ok_iff] at arrived ⊢
      obtain ⟨next, stepped, arrived⟩ := arrived
      -- a step that succeeds starts in a directory, and that one has been kept
      have found := directory_of_step stepped
      have same : later.step start segment = earlier.step start segment := by
        unfold step
        rw [found, keeps start found]
      exact ⟨next, same.trans stepped, ih next arrived⟩

theorem steps_plain {names : List String} (plain : ∀ name ∈ names, Path.IsPlain name)
    (arrived : names.foldlM tree.step [] = .ok location) :
    names = location ∧ ∀ name ∈ names, name.utf8ByteSize ≤ maxNameSize := by
  induction names using List.reverseRecOn generalizing location with
  | nil => exact ⟨Except.ok.inj arrived, nofun⟩
  | append_singleton front last ih =>
      simp only [List.forall_mem_append, List.forall_mem_singleton] at plain ⊢
      rw [List.foldlM_append, Outcome.bind_eq_ok_iff] at arrived
      obtain ⟨next, above, stepped⟩ := arrived
      rw [List.foldlM_cons, Outcome.bind_eq_ok_iff] at stepped
      obtain ⟨below, stepped, arrived⟩ := stepped
      obtain ⟨rfl, short⟩ := ih plain.1 above
      obtain ⟨-, lastShort, rfl⟩ := (step_plain_iff plain.2 below).1 stepped
      exact ⟨Except.ok.inj arrived, short, lastShort⟩

theorem steps_of_closed (closed : tree.Closed) {names : List String}
    (plain : ∀ name ∈ names, Path.IsPlain name)
    (short : ∀ name ∈ names, name.utf8ByteSize ≤ maxNameSize)
    (present : tree.item? names ≠ none) : names.foldlM tree.step [] = .ok names := by
  induction names using List.reverseRecOn with
  | nil => rfl
  | append_singleton front last ih =>
      simp only [List.forall_mem_append, List.forall_mem_singleton] at plain short
      -- the directory of what is there is there as well, so the names above lead to it
      have above := closed _ present
      rw [List.dropLast_concat] at above
      have stepped := (step_plain_iff plain.2 _).2 ⟨above, short.2, rfl⟩
      rw [List.foldlM_append, Outcome.bind_eq_ok_iff]
      refine ⟨front, ih plain.1 short.1 (by simp [above]), ?_⟩
      rw [List.foldlM_cons, stepped]
      rfl

end Steps

section Locating

theorem locate_eq_ok_iff :
    tree.locate here path = .ok location ↔
      checkPath path = .ok () ∧ ¬path.IsEmpty ∧
        path.segments.foldlM tree.step
          (match path.start with
          | .root => []
          | .here | .bare => here) = .ok location := by
  unfold locate
  rw [Outcome.check_bind_eq_ok_iff]
  refine and_congr_right fun _ => ?_
  split
  next empty => simp [empty]
  next named => exact (and_iff_right named).symm

theorem locate_of_keeps (keeps : KeepsDirectories earlier later)
    (arrived : earlier.locate here path = .ok location) :
    later.locate here path = .ok location := by
  rw [locate_eq_ok_iff] at arrived ⊢
  obtain ⟨readable, named, arrived⟩ := arrived
  exact ⟨readable, named, steps_of_keeps keeps _ _ _ arrived⟩

theorem locate_plain {names : List String} (plain : ∀ name ∈ names, Path.IsPlain name)
    (arrived : tree.locate here ⟨.root, names⟩ = .ok location) : names = location := by
  obtain ⟨-, -, arrived⟩ := locate_eq_ok_iff.1 arrived
  exact (steps_plain plain arrived).1

theorem locate_of_closed (closed : earlier.Closed) {names : List String}
    (plain : ∀ name ∈ names, Path.IsPlain name) (present : earlier.item? names ≠ none)
    (arrived : later.locate here ⟨.root, names⟩ = .ok location) :
    earlier.locate here ⟨.root, names⟩ = .ok names := by
  rw [locate_eq_ok_iff] at arrived ⊢
  obtain ⟨readable, named, arrived⟩ := arrived
  have short := (steps_plain plain arrived).2
  exact ⟨readable, named, steps_of_closed closed plain short present⟩

/-- In a closed tree a path of plain names leads to a file exactly when the file is in its place and
the system accepts the path and each name. -/
theorem bytes_at_plain_iff (closed : tree.Closed) {names : List String}
    (plain : ∀ name ∈ names, Path.IsPlain name) (content : ByteArray) :
    tree.bytesAt here ⟨.root, names⟩ = some content ↔
      checkPath ⟨.root, names⟩ = .ok () ∧ (∀ name ∈ names, name.utf8ByteSize ≤ maxNameSize) ∧
        tree.contentAt names = some content := by
  rw [bytes_at_eq_some_iff]
  constructor
  · rintro ⟨location, arrived, held⟩
    obtain rfl := locate_plain plain arrived
    obtain ⟨readable, -, arrived⟩ := locate_eq_ok_iff.1 arrived
    exact ⟨readable, (steps_plain plain arrived).2, held⟩
  · rintro ⟨readable, short, held⟩
    have present : tree.item? names ≠ none := by
      rw [(content_at_eq_some_iff content).1 held]
      exact Option.some_ne_none _
    have rooted : ¬Path.IsEmpty ⟨.root, names⟩ := nofun
    exact ⟨names,
      locate_eq_ok_iff.2 ⟨readable, rooted, steps_of_closed closed plain short present⟩, held⟩

theorem named_of_locate (closed : tree.Closed) (present : tree.item? here = some .directory)
    (arrived : tree.locate here path = .ok location)
    (outside : tree.item? location ≠ some .directory) :
    ∃ above name, path.segments.getLast? = some name ∧ location = above ++ [name] ∧
      tree.item? above = some .directory := by
  obtain ⟨-, -, arrived⟩ := locate_eq_ok_iff.1 arrived
  cases segments : path.segments using List.reverseRecOn with
  | nil =>
      rw [segments] at arrived
      obtain rfl := Except.ok.inj arrived
      cases start : path.start with
      | root => simp [start, item?] at outside
      | here => simp [start, present] at outside
      | bare => simp [start, present] at outside
  | append_singleton front last =>
      rw [segments, List.foldlM_append, Outcome.bind_eq_ok_iff] at arrived
      obtain ⟨above, -, stepped⟩ := arrived
      rw [List.foldlM_cons, Outcome.bind_eq_ok_iff] at stepped
      obtain ⟨below, stepped, arrived⟩ := stepped
      obtain rfl := Except.ok.inj arrived
      have found := directory_of_step stepped
      refine ⟨above, last, List.getLast?_concat, ?_, found⟩
      -- hollow segments stay in a directory and the parent of one is another, so a name is left
      unfold step at stepped
      simp only [found] at stepped
      split_ifs at stepped with hollow parent long
      · cases stepped
        exact absurd found outside
      · cases stepped
        exact absurd (closed above (by simp [found])) outside
      · exact (Except.ok.inj stepped).symm

end Locating

section Changing

/-- Directories were added and nothing else. -/
structure Grows (earlier later : FileTree) : Prop where
  directories : KeepsDirectories earlier later
  contents : ∀ location, later.contentAt location = earlier.contentAt location

/-- No file but the one at the target was written, and no directory lost. -/
structure ChangesOnly (target : Location) (earlier later : FileTree) : Prop where
  directories : KeepsDirectories earlier later
  others : ∀ location, location ≠ target → later.contentAt location = earlier.contentAt location

theorem Grows.refl (tree : FileTree) : tree.Grows tree :=
  ⟨fun _ found => found, fun _ => rfl⟩

theorem Grows.trans (first : earlier.Grows middle) (second : middle.Grows later) :
    earlier.Grows later where
  directories location found := second.directories location (first.directories location found)
  contents location := (second.contents location).trans (first.contents location)

theorem ChangesOnly.after_growth (grown : earlier.Grows middle)
    (changed : ChangesOnly target middle later) : ChangesOnly target earlier later where
  directories location found := changed.directories location (grown.directories location found)
  others location apart := (changed.others location apart).trans (grown.contents location)

theorem bytes_at_of_changes_only (changed : ChangesOnly target earlier later)
    (apart : later.locate here path ≠ .ok target) {content : ByteArray}
    (held : earlier.bytesAt here path = some content) :
    later.bytesAt here path = some content := by
  rw [bytes_at_eq_some_iff] at held ⊢
  obtain ⟨location, arrived, held⟩ := held
  have arrivedLater := locate_of_keeps changed.directories arrived
  have other : location ≠ target := by
    rintro rfl
    exact apart arrivedLater
  exact ⟨location, arrivedLater, (changed.others location other).trans held⟩

/-- No new directory lets a path of plain names arrive at a file that it did not reach before. -/
theorem is_file_plain_of_changes_only (closed : earlier.Closed)
    (changed : ChangesOnly target earlier later) {names : List String}
    (plain : ∀ name ∈ names, Path.IsPlain name) (apart : names ≠ target) :
    later.isFile here ⟨.root, names⟩ = earlier.isFile here ⟨.root, names⟩ := by
  have same := changed.others names apart
  rw [Bool.eq_iff_iff, is_file_iff, is_file_iff]
  refine exists_congr fun content => ⟨fun held => ?_, fun held => ?_⟩
  · rw [bytes_at_eq_some_iff] at held ⊢
    obtain ⟨location, arrived, held⟩ := held
    obtain rfl := locate_plain plain arrived
    rw [same] at held
    -- the file was there before, hence also every directory on the way to it
    have present : earlier.item? names ≠ none := by
      rw [(content_at_eq_some_iff content).1 held]
      exact Option.some_ne_none _
    exact ⟨names, locate_of_closed closed plain present arrived, held⟩
  · refine bytes_at_of_changes_only changed ?_ held
    intro arrived
    exact apart (locate_plain plain arrived)

theorem item_put_outside (outside : tree.item? target ≠ some .directory) (item : Item)
    (location : Location) :
    (tree.put target item).item? location =
      if location = target then some item else tree.item? location := by
  have notRoot : target ≠ [] := by
    rintro rfl
    exact outside rfl
  exact item_put tree item notRoot location

theorem keeps_of_put (outside : tree.item? target ≠ some .directory) (item : Item) :
    KeepsDirectories tree (tree.put target item) := by
  intro location found
  have apart : location ≠ target := by
    rintro rfl
    exact outside found
  rw [item_put_outside outside, if_neg apart, found]

theorem content_at_put (outside : tree.item? target ≠ some .directory) (item : Item)
    (apart : location ≠ target) :
    (tree.put target item).contentAt location = tree.contentAt location := by
  unfold contentAt
  rw [item_put_outside outside, if_neg apart]

theorem closed_of_put (closed : tree.Closed) {above : Location} {name : String}
    (found : tree.item? above = some .directory)
    (outside : tree.item? (above ++ [name]) ≠ some .directory) (item : Item) :
    (tree.put (above ++ [name]) item).Closed := by
  intro location present
  have keeps := keeps_of_put outside item
  by_cases same : location = above ++ [name]
  · rw [same, List.dropLast_concat]
    exact keeps above found
  · -- no directory was replaced, so whatever is elsewhere still has its own
    rw [item_put_outside outside, if_neg same] at present
    exact keeps _ (closed location present)

theorem put_of_make_directory (made : tree.makeDirectory here path = .ok later) :
    ∃ target, tree.locate here path.withoutSlash = .ok target ∧
      tree.item? target = none ∧ tree.put target .directory = later := by
  unfold makeDirectory at made
  rw [Outcome.check_bind_eq_ok_iff, Outcome.bind_eq_ok_iff] at made
  obtain ⟨-, target, arrived, made⟩ := made
  split at made
  next => cases made
  next free => exact ⟨target, arrived, free, Except.ok.inj made⟩

theorem grows_of_make_directory (made : tree.makeDirectory here path = .ok later) :
    tree.Grows later := by
  obtain ⟨target, -, free, rfl⟩ := put_of_make_directory made
  have outside : tree.item? target ≠ some .directory := by simp [free]
  refine ⟨keeps_of_put outside _, fun location => ?_⟩
  by_cases same : location = target
  · unfold contentAt
    rw [item_put_outside outside, if_pos same, same, free]
  · exact content_at_put outside _ same

theorem closed_of_make_directory (closed : tree.Closed)
    (present : tree.item? here = some .directory)
    (made : tree.makeDirectory here path = .ok later) : later.Closed := by
  obtain ⟨target, arrived, free, rfl⟩ := put_of_make_directory made
  have outside : tree.item? target ≠ some .directory := by simp [free]
  obtain ⟨above, name, -, rfl, found⟩ := named_of_locate closed present arrived outside
  exact closed_of_put closed found outside _

theorem put_of_write {content : ByteArray} (written : tree.write here path content = .ok later) :
    ∃ target, tree.locate here path = .ok target ∧ tree.item? target ≠ some .directory ∧
      tree.put target (.file content) = later := by
  unfold write at written
  rw [Outcome.check_bind_eq_ok_iff, Outcome.bind_eq_ok_iff] at written
  obtain ⟨-, target, arrived, written⟩ := written
  have outside : tree.item? target ≠ some .directory := by
    intro found
    simp [found] at written
  have put : ¬path.EndsInSlash ∧ tree.put target (.file content) = later := by
    split at written
    next found => exact absurd found outside
    all_goals
      split at written
      next => cases written
      next named => exact ⟨named, Except.ok.inj written⟩
  rw [Path.without_slash_of_name put.1] at arrived
  exact ⟨target, arrived, outside, put.2⟩

theorem changes_only_of_write {content : ByteArray}
    (written : tree.write here path content = .ok later) :
    ∃ target, later.locate here path = .ok target ∧
      later.contentAt target = some content ∧ ChangesOnly target tree later := by
  obtain ⟨target, arrived, outside, rfl⟩ := put_of_write written
  have keeps := keeps_of_put outside (.file content)
  refine ⟨target, locate_of_keeps keeps arrived, ?_, keeps, fun location apart => ?_⟩
  · rw [content_at_eq_some_iff, item_put_outside outside, if_pos rfl]
  · exact content_at_put outside _ apart

theorem closed_of_write {content : ByteArray} (closed : tree.Closed)
    (present : tree.item? here = some .directory)
    (written : tree.write here path content = .ok later) : later.Closed := by
  obtain ⟨target, arrived, outside, rfl⟩ := put_of_write written
  obtain ⟨above, name, -, rfl, found⟩ := named_of_locate closed present arrived outside
  exact closed_of_put closed found outside _

end Changing

end FileTree

end EnumHeader

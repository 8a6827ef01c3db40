import EnumHeader.FileTree.Fault
import EnumHeader.Path

/-!
# File trees

Files and directories as a program sees them: paths are followed segment by segment, every segment
on the way has to be a directory, and each operation succeeds or says why it cannot. Names and paths
may only be so long; there are no links, permissions or other limits. Directories have no content of
their own, so two trees hold the same when `FileTree.contentAt` agrees on them.
-/

namespace EnumHeader

set_option autoImplicit false

/-- The names from the root down to a file or directory. -/
abbrev Location :=
  List String

inductive FileTree.Item where
  | file (content : ByteArray)
  | directory
  deriving Inhabited

structure FileTree where
  items : List (Location × FileTree.Item) := []
  deriving Inhabited

namespace FileTree

/-- What is at a location. The root is there and is a directory. -/
def item? (tree : FileTree) : Location → Option Item
  | [] => some .directory
  | location => tree.items.lookup location

def put (tree : FileTree) (location : Location) (item : Item) : FileTree :=
  ⟨(location, item) :: tree.items.filter (·.1 ≠ location)⟩

def contentAt (tree : FileTree) (location : Location) : Option ByteArray :=
  match tree.item? location with
  | some (.file content) => some content
  | some .directory | none => none

def maxNameSize : Nat :=
  255

def maxPathSize : Nat :=
  4095

def checkPath (path : Path) : Except Fault Unit :=
  if path.text.toList.contains '\x00' then .error .nullInName
  else if maxPathSize < path.text.utf8ByteSize then .error .nameTooLong
  else .ok ()

/-- One segment further. The place arrived at need not exist. -/
def step (tree : FileTree) (location : Location) (segment : String) : Except Fault Location :=
  match tree.item? location with
  | none => .error .notFound
  | some (.file _) => .error .notDirectory
  | some .directory =>
      if Path.isHollow segment then .ok location
      else if segment = ".." then .ok location.dropLast
      else if maxNameSize < segment.utf8ByteSize then .error .nameTooLong
      else .ok (location ++ [segment])

def locate (tree : FileTree) (here : Location) (path : Path) : Except Fault Location := do
  checkPath path
  if path.IsEmpty then .error .notFound
  else
    path.segments.foldlM tree.step
      (match path.start with
      | .root => []
      | .here | .bare => here)

def find (tree : FileTree) (here : Location) (path : Path) : Except Fault Item := do
  let location ← tree.locate here path
  match tree.item? location with
  | some item => .ok item
  | none => .error .notFound

def isPresent (tree : FileTree) (here : Location) (path : Path) : Bool :=
  (tree.find here path).toOption.isSome

def isFile (tree : FileTree) (here : Location) (path : Path) : Bool :=
  match tree.find here path with
  | .ok (.file _) => true
  | _ => false

def isDirectory (tree : FileTree) (here : Location) (path : Path) : Bool :=
  match tree.find here path with
  | .ok .directory => true
  | _ => false

def readText (tree : FileTree) (here : Location) (path : Path) : Except Fault String := do
  match ← tree.find here path with
  | .directory => .error .isDirectory
  | .file content =>
      match String.fromUTF8? content with
      | some text => .ok text
      | none => .error .notText

/-- Writes a whole file, which need not exist; its directory has to. -/
def write (tree : FileTree) (here : Location) (path : Path) (content : ByteArray) :
    Except Fault FileTree := do
  checkPath path
  let location ← tree.locate here path.withoutSlash
  match tree.item? location with
  | some .directory => .error .isDirectory
  | some (.file _) | none =>
      if path.EndsInSlash then .error .isDirectory else .ok (tree.put location (.file content))

def makeDirectory (tree : FileTree) (here : Location) (path : Path) : Except Fault FileTree := do
  checkPath path
  let location ← tree.locate here path.withoutSlash
  match tree.item? location with
  | some _ => .error .alreadyExists
  | none => .ok (tree.put location .directory)

/-- The files of a tree that an earlier one lacks or holds with another content. -/
def changes (earlier later : FileTree) : List (Location × ByteArray) :=
  later.items.filterMap fun (location, item) =>
    match item with
    | .directory => none
    | .file content =>
        if (earlier.contentAt location).map ByteArray.data = some content.data then none
        else some (location, content)

theorem lookup_filter_ne {location other : Location} (differs : other ≠ location)
    (items : List (Location × Item)) :
    (items.filter (·.1 ≠ location)).lookup other = items.lookup other := by
  induction items with
  | nil => rfl
  | cons first rest ih =>
      obtain ⟨place, item⟩ := first
      by_cases same : place = location
      · subst same
        have unequal : (other == place) = false := by simpa using differs
        rw [List.filter_cons_of_neg (by simp), ih, List.lookup_cons, unequal]
      · rw [List.filter_cons_of_pos (by simpa using same), List.lookup_cons, List.lookup_cons, ih]

/-- Putting an item changes its own location and no other. -/
theorem item_put (tree : FileTree) {location : Location} (item : Item)
    (notRoot : location ≠ []) (other : Location) :
    (tree.put location item).item? other =
      if other = location then some item else tree.item? other := by
  cases other with
  | nil => simp [item?, notRoot.symm]
  | cons name names =>
      by_cases same : name :: names = location
      · simp [item?, put, same]
      · have unequal : (name :: names == location) = false := by simpa using same
        rw [if_neg same]
        simp only [item?, put]
        rw [List.lookup_cons, unequal]
        exact lookup_filter_ne same tree.items

end FileTree

end EnumHeader

import EnumHeader.Document.Fault

/-!
# Paths

A path is a start and the segments that follow it, exactly as they are written: doubled slashes, `.`
and `..` stay until a parent is taken. What a path leads to is a matter of the file tree.
-/

namespace EnumHeader

set_option autoImplicit false

inductive Path.Start where
  | root
  /-- The current directory, written as a leading `.`. -/
  | here
  /-- The current directory, not written. -/
  | bare
  deriving Repr, DecidableEq, Inhabited

structure Path where
  start : Path.Start
  /-- What stands between the slashes after the start, also if it is nothing. -/
  segments : List String
  deriving Repr, DecidableEq, Inhabited

namespace Path

def ofText (text : String) : Path :=
  match (text.toList.splitOn '/').map String.ofList with
  | [""] => ⟨.bare, []⟩
  | "" :: segments => ⟨.root, segments⟩
  | "." :: segments => ⟨.here, segments⟩
  | segments => ⟨.bare, segments⟩

def text (path : Path) : String :=
  match path.start with
  | .root => "/" ++ "/".intercalate path.segments
  | .here => "/".intercalate ("." :: path.segments)
  | .bare => "/".intercalate path.segments

def IsEmpty (path : Path) : Prop :=
  path = ⟨.bare, []⟩

instance (path : Path) : Decidable path.IsEmpty :=
  inferInstanceAs (Decidable (_ = _))

/-- A segment that names nothing and leads nowhere else. -/
def isHollow (segment : String) : Bool :=
  segment == "" || segment == "."

/-- The segments from the last one that is not hollow backwards. -/
def backwards (path : Path) : List String :=
  path.segments.reverse.dropWhile isHollow

/-- The path without its last segment, hollow segments around that one not counting. -/
def parent? (path : Path) : Option Path :=
  match path.backwards with
  | _ :: before => some { path with segments := (before.dropWhile isHollow).reverse }
  | [] =>
      match path.start with
      | .here => some ⟨.bare, []⟩
      | .root | .bare => none

def height (path : Path) : Nat :=
  path.segments.length + if path.start = .here then 1 else 0

theorem length_drop_while_le {α : Type} (p : α → Bool) (items : List α) :
    (items.dropWhile p).length ≤ items.length :=
  (List.dropWhile_suffix p).length_le

theorem height_parent_lt {path above : Path} (h : path.parent? = some above) :
    above.height < path.height := by
  unfold parent? at h
  split at h
  · next last before kept =>
      have shorter := length_drop_while_le isHollow path.segments.reverse
      have shortest := length_drop_while_le isHollow before
      unfold backwards at kept
      simp only [kept, List.length_cons, List.length_reverse] at shorter
      obtain rfl := Option.some.inj h
      simp only [height, List.length_reverse]
      omega
  · split at h
    · next start =>
        obtain rfl := Option.some.inj h
        simp [height, start]
    · simp at h
    · simp at h

def ancestors (path : Path) : List Path :=
  match _h : path.parent? with
  | some above => path :: above.ancestors
  | none => [path]
termination_by path.height
decreasing_by exact height_parent_lt _h

def join (path : Path) (name : String) : Path :=
  { path with
    segments :=
      (if path.segments.getLast? = some "" then path.segments.dropLast else path.segments) ++
        [name] }

def EndsInSlash (path : Path) : Prop :=
  path.segments.getLast? = some ""

instance (path : Path) : Decidable path.EndsInSlash :=
  inferInstanceAs (Decidable (_ = _))

def withoutSlash (path : Path) : Path :=
  { path with segments := (path.segments.reverse.dropWhile (· == "")).reverse }

/-- The part of a file name after its last dot. A name whose only dot comes first has none. -/
def extensionOf (name : List Char) : Option (List Char) :=
  let stem := (name.reverse.dropWhile (· ≠ '.')).drop 1
  if stem.isEmpty then none else some (name.reverse.takeWhile (· ≠ '.')).reverse

def extension? (path : Path) : Option String :=
  match path.backwards.head? with
  | none | some ".." => none
  | some name => (extensionOf name.toList).map String.ofList

/-- The format of the document at a path: JSON if the extension says so in any letter case, and TOML
otherwise. -/
def format (path : Path) : Document.Format :=
  match path.extension? with
  | some extension => if extension.map Char.toLower = "json" then .json else .toml
  | none => .toml

theorem text_of_text (text : String) : (ofText text).text = text := by
  have joined : "/".intercalate ((text.toList.splitOn '/').map String.ofList) = text := by
    apply String.toList_inj.1
    rw [String.toList_intercalate, List.map_map]
    simp [Function.comp_def, List.intercalate_splitOn]
  unfold ofText
  split
  · next parts =>
      rw [parts] at joined
      simpa [Path.text] using joined
  · next segments notEmpty parts =>
      rw [parts] at joined
      cases segments with
      | nil => exact absurd rfl notEmpty
      | cons first others =>
          rw [String.intercalate_cons_of_ne_nil (by simp)] at joined
          simpa [Path.text] using joined
  · next parts => rw [parts] at joined; exact joined
  · exact joined

end Path

end EnumHeader

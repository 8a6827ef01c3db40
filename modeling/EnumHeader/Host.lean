import EnumHeader.FileTree
import EnumHeader.Timestamp

/-!
# Hosts

What a command asks of the machine it runs on: files, the current directory and the time. Commands
are written against this interface, so that the same command runs on a real machine and on a
`Workspace`, where everything it does can be calculated.
-/

namespace EnumHeader

set_option autoImplicit false

open FileTree (Fault)

class Host (m : Type → Type) where
  currentDirectory : m Path
  readText : Path → m (Except Fault String)
  isFile : Path → m Bool
  isDirectory : Path → m Bool
  isPresent : Path → m Bool
  makeDirectory : Path → m (Except Fault Unit)
  writeText : Path → String → m (Except Fault Unit)
  now : m Timestamp

namespace Host

variable {m : Type → Type} [Monad m] [Host m]

def ensureDirectory (path : Path) : m (Except Fault Unit) := do
  match ← makeDirectory path with
  | .ok _ => return .ok ()
  | .error fault => if ← isDirectory path then return .ok () else return .error fault

/-- Makes the first of the directories, and before it as many of the others as it lacks. The list is
a path and its ancestors. What was made stays if a later one fails. -/
def ensureFirst : List Path → m (Except Fault Unit)
  | [] => return .error .notFound
  | path :: above => do
      if path.IsEmpty then return .ok ()
      else
        match ← ensureDirectory path with
        | .error .notFound =>
            match ← ensureFirst above with
            | .ok _ => ensureDirectory path
            | .error fault => return .error fault
        | result => return result

def makeDirectories (path : Path) : m (Except Fault Unit) :=
  ensureFirst path.ancestors

end Host

/-- A file tree with a current directory and a clock that stands still. -/
structure Workspace where
  tree : FileTree
  directory : Location
  clock : Timestamp
  deriving Inhabited

namespace Workspace

def directoryPath (workspace : Workspace) : Path :=
  ⟨.root, workspace.directory⟩

def makeDirectory (path : Path) (workspace : Workspace) : Except Fault Unit × Workspace :=
  match workspace.tree.makeDirectory workspace.directory path with
  | .ok tree => (.ok (), { workspace with tree })
  | .error fault => (.error fault, workspace)

def writeBytes (path : Path) (content : ByteArray) (workspace : Workspace) :
    Except Fault Unit × Workspace :=
  match workspace.tree.write workspace.directory path content with
  | .ok tree => (.ok (), { workspace with tree })
  | .error fault => (.error fault, workspace)

instance : Host (StateM Workspace) where
  currentDirectory := do return (← get).directoryPath
  readText path := do
    let workspace ← get
    return workspace.tree.readText workspace.directory path
  isFile path := do
    let workspace ← get
    return workspace.tree.isFile workspace.directory path
  isDirectory path := do
    let workspace ← get
    return workspace.tree.isDirectory workspace.directory path
  isPresent path := do
    let workspace ← get
    return workspace.tree.isPresent workspace.directory path
  makeDirectory path := modifyGet (makeDirectory path)
  writeText path text := modifyGet (writeBytes path text.toUTF8)
  now := do return (← get).clock

end Workspace

end EnumHeader

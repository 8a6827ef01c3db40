import EnumHeader.Command
import Std.Time

/-!
# The program

Files, time and environment of the real machine, and the entry point.
-/

namespace EnumHeader

set_option autoImplicit false

open FileTree (Fault)

namespace Program

/-- The cause behind an error. The numbers are the ones that the system gives to the causes. -/
def faultOf : IO.Error → Fault
  | .noFileOrDirectory .. => .notFound
  | .alreadyExists .. => .alreadyExists
  | .invalidArgument _ code details => if code = 36 then .nameTooLong else .other details
  | .inappropriateType _ code details =>
      if code = 20 then .notDirectory
      else if code = 21 then .isDirectory
      else .other details
  | error => .other (toString error)

def guarded {α : Type} (action : IO α) : IO (Except Fault α) := do
  try return .ok (← action)
  catch error => return .error (faultOf error)

def readBytes (path : Path) : IO (Except Fault ByteArray) :=
  guarded (IO.FS.readBinFile path.text)

/-- A file is there, even if it cannot be read. -/
def isFile (path : Path) : IO Bool := do
  match ← readBytes path with
  | .error .notFound | .error .notDirectory | .error .isDirectory | .error .nameTooLong =>
      return false
  | .error _ | .ok _ => return true

def isDirectory (path : Path) : IO Bool := do
  match ← readBytes path with
  | .error .isDirectory => return true
  | .error _ | .ok _ => return false

def isPresent (path : Path) : IO Bool := do
  match ← readBytes path with
  | .error .notFound | .error .notDirectory | .error .nameTooLong => return false
  | .error _ | .ok _ => return true

def readText (path : Path) : IO (Except Fault String) := do
  match ← readBytes path with
  | .error fault => return .error fault
  | .ok content =>
      match String.fromUTF8? content with
      | some text => return .ok text
      | none => return .error .notText

/-- How far the clocks here are ahead of universal time at that moment; without a database of time
zones, not at all. -/
def offsetAt (moment : Std.Time.Timestamp) : IO Int := do
  try
    let rules ← Std.Time.Database.defaultGetLocalZoneRules
    return (rules.timezoneAt moment).offset.second.val
  catch _ => return 0

def currentTime : IO Timestamp := do
  let moment ← Std.Time.Timestamp.now
  return Timestamp.ofSeconds moment.toSecondsSinceUnixEpoch.val.toNat (← offsetAt moment)

instance : Host IO where
  currentDirectory := do return Path.ofText (toString (← IO.currentDir))
  readText
  isFile
  isDirectory
  isPresent
  makeDirectory path := guarded (IO.FS.createDir path.text)
  writeText path text := guarded (IO.FS.writeBinFile path.text text.toUTF8)
  now := currentTime

def environment : IO CommandLine.Environment :=
  CommandLine.Environment.read fun name => (IO.getEnv name : IO (Option String))

def report (outcome : Command.Outcome) : IO Unit := do
  match outcome with
  | .finished output => IO.print output
  | .failed failure => IO.eprintln ("error: " ++ failure.message)
  | .misused => IO.eprint Command.usageText

def run (words : List String) : IO UInt32 := do
  let outcome ← Command.run (← environment) words
  report outcome
  return outcome.exitCode.toUInt32

end Program

end EnumHeader

def main (words : List String) : IO UInt32 :=
  EnumHeader.Program.run words

/-!
# Why a file operation fails

The causes that reading and writing can report, with the texts and numbers of the operating system.
-/

namespace EnumHeader.FileTree

set_option autoImplicit false

inductive Fault where
  | notFound
  | alreadyExists
  | notDirectory
  | isDirectory
  | nameTooLong
  | nullInName
  /-- The bytes of a file are no text. -/
  | notText
  /-- Any other cause, in the words of the system. -/
  | other (text : String)
  deriving Repr, DecidableEq, Inhabited

def Fault.message : Fault → String
  | .notFound => "No such file or directory (os error 2)"
  | .alreadyExists => "File exists (os error 17)"
  | .notDirectory => "Not a directory (os error 20)"
  | .isDirectory => "Is a directory (os error 21)"
  | .nameTooLong => "File name too long (os error 36)"
  | .nullInName => "file name contained an unexpected NUL byte"
  | .notText => "stream did not contain valid UTF-8"
  | .other text => text

end EnumHeader.FileTree
